import ClusterPlan.Binary64.Basic

/-!
# Shortest decimal text

A floating-point number is written with the fewest significant digits that read back as the number,
and among those with the digits nearest to it. The search is over decimal grids: for one, two, up to
seventeen digits it tests the two neighbours of the value on the grid of that many digits.
-/

namespace ClusterPlan.Binary64

/-- A rational number that is not negative, as numerator and positive denominator. -/
abbrev Ratio := Nat × Nat

/-- The numbers that round to a finite magnitude: an interval with its ends, which belong to it when
the mantissa is even. -/
structure Basin where
  low : Ratio
  high : Ratio
  closed : Bool

/-- The basin of a positive magnitude. Below a power of two the spacing is half as large. -/
def basin (mantissa : Nat) (exponent : Int) : Basin :=
  let low :=
    if mantissa = 1 <<< 52 && minExponent < exponent then ratio (4 * mantissa - 1) (exponent - 2)
    else ratio (2 * mantissa - 1) (exponent - 1)
  ⟨low, ratio (2 * mantissa + 1) (exponent - 1), mantissa % 2 = 0⟩

def Basin.contains (b : Basin) (x : Ratio) : Bool :=
  let less (p q : Ratio) : Bool :=
    if b.closed then p.1 * q.2 ≤ q.1 * p.2 else p.1 * q.2 < q.1 * p.2
  less b.low x && less x b.high

/-- `d * 10 ^ k` as a rational number. -/
def decimal (d : Nat) (k : Int) : Ratio :=
  if 0 ≤ k then (d * Nat.pow 10 k.toNat, 1) else (d, Nat.pow 10 (-k).toNat)

/-- The exponent `k` with `10 ^ k ≤ a / b < 10 ^ (k + 1)`, for a positive quotient: the number of
digits of the whole part, or else of the zeros after the point. -/
def magnitude (a b : Nat) : Int :=
  if b ≤ a then
    ((Nat.toDigits 10 (a / b)).length : Int) - 1
  else
    let guess : Int := -((Nat.toDigits 10 (b / a)).length : Int)
    let (c, d) := decimal 1 (guess + 1)
    if c * b ≤ a * d then guess + 1 else guess

/-- The digits and the exponent of the hit on the grid of spacing `10 ^ k`, if there is one; of two
hits the nearer, a tie going to the even digit. -/
def gridHit? (area : Basin) (a b : Nat) (k : Int) : Option (Nat × Int) :=
  let (num, den) := if 0 ≤ k then (a, b * Nat.pow 10 k.toNat) else (a * Nat.pow 10 (-k).toNat, b)
  let d := num / den
  let below := area.contains (decimal d k) && d != 0
  let above := area.contains (decimal (d + 1) k)
  if below && above then some (divNearest num den, k)
  else if below then some (d, k)
  else if above then some (d + 1, k)
  else none

/-- The fewest digits that read back, with their exponent; seventeen digits always do. -/
def shortest (mantissa : Nat) (exponent : Int) : Nat × Int :=
  let (a, b) := ratio mantissa exponent
  let area := basin mantissa exponent
  let top := magnitude a b
  ((List.range 17).findSome? fun (n : Nat) => gridHit? area a b (top - (n : Nat))).getD (a / b, 0)

/-- How a decimal number is laid out. -/
structure Layout where
  /-- The exponents of the first digit that are written out positionally. -/
  least : Int
  most : Int
  /-- The fewest digits of a written exponent. -/
  exponentWidth : Nat

/-- Numbers from `0.0001` up to sixteen digits before the point are written out, others with an
exponent of at least two digits. -/
def plainLayout : Layout := ⟨-4, 15, 2⟩

/-- Digits with their point or their exponent. The decimal exponent belongs to the last digit. -/
def Layout.write (layout : Layout) (digits : Nat) (exponent : Int) : String :=
  let all := Nat.toDigits 10 digits
  let zeros := (all.reverse.takeWhile (· = '0')).length
  let ds := if zeros < all.length then all.take (all.length - zeros) else all
  let exponent := exponent + (all.length - ds.length : Nat)
  let first : Int := ds.length + exponent - 1
  if layout.least ≤ first && first ≤ layout.most then
    if 0 ≤ exponent then
      .ofList (ds ++ List.replicate exponent.toNat '0' ++ ['.', '0'])
    else if first < 0 then
      .ofList ('0' :: '.' :: List.replicate (-first - 1).toNat '0' ++ ds)
    else
      .ofList (ds.take (first.toNat + 1) ++ '.' :: ds.drop (first.toNat + 1))
  else
    let power := Nat.toDigits 10 first.natAbs
    let power := List.replicate (layout.exponentWidth - power.length) '0' ++ power
    let fraction := if ds.length ≤ 1 then [] else '.' :: ds.drop 1
    .ofList (ds.take 1 ++ fraction ++ 'e' :: (if first < 0 then '-' else '+') :: power)

/-- The shortest text of a number that reads back as the number. -/
def text : Binary64 → String
  | .nan => "nan"
  | .infinity negative => if negative then "-inf" else "inf"
  | .finite negative m e =>
    let (digits, exponent) := if m = 0 then (0, 0) else shortest m e
    (if negative then "-" else "") ++ plainLayout.write digits exponent

end ClusterPlan.Binary64
