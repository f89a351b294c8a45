/-!
# Binary floating point

Numbers of the 64-bit binary format with exact arithmetic behind them: a finite number is a sign, a
whole mantissa below `2 ^ 53` and an exponent of two. Every operation works on the exact rational
value and rounds once, to the nearest representable number, a tie going to the even mantissa.
-/

namespace ClusterPlan

/-- A number of the 64-bit binary format. -/
inductive Binary64 where
  | nan
  | infinity (negative : Bool)
  /-- `± mantissa * 2 ^ exponent`. -/
  | finite (negative : Bool) (mantissa : Nat) (exponent : Int)
deriving DecidableEq, Repr, Inhabited

namespace Binary64

/-- The exponent of the smallest numbers. -/
def minExponent : Int := -1074

/-- The exponent of the largest numbers. -/
def maxExponent : Int := 971

def zero : Binary64 := .finite false 0 minExponent

/-- The quotient rounded to the nearest whole number, a tie going to the even one. -/
def divNearest (num den : Nat) : Nat :=
  let q := num / den
  let r := num % den
  if den < 2 * r || (den = 2 * r && q % 2 = 1) then q + 1 else q

/-- `num / (den * 2 ^ e)` as a quotient of whole numbers. -/
def scale (num den : Nat) (e : Int) : Nat × Nat :=
  if 0 ≤ e then (num, den <<< e.toNat) else (num <<< (-e).toNat, den)

/-- The exponent at which the quotient of two positive numbers has a mantissa of 53 bits, or the
least exponent. -/
def exponentOf (num den : Nat) : Int :=
  let e : Int := (num.log2 : Int) - den.log2 - 53
  let (a, b) := scale num den e
  max minExponent (if a < b <<< 53 then e else e + 1)

/-- `± mantissa * 2 ^ exponent`, or infinity if the exponent is too large. -/
def bounded (negative : Bool) (mantissa : Nat) (exponent : Int) : Binary64 :=
  if maxExponent < exponent then .infinity negative else .finite negative mantissa exponent

/-- The number of a mantissa that rounding may have carried to `2 ^ 53`. -/
def ofMantissa (negative : Bool) (m : Nat) (e : Int) : Binary64 :=
  if m = 1 <<< 53 then bounded negative (1 <<< 52) (e + 1) else bounded negative m e

/-- The number nearest to `± num / den`. -/
def ofRatio (negative : Bool) (num den : Nat) : Binary64 :=
  if num = 0 || den = 0 then
    .finite negative 0 minExponent
  else
    let e := exponentOf num den
    let scaled := scale num den e
    ofMantissa negative (divNearest scaled.1 scaled.2) e

/-- The number nearest to a whole number. -/
def ofInt (i : Int) : Binary64 :=
  ofRatio (decide (i < 0)) i.natAbs 1

/-- The number nearest to `± digits * 10 ^ exponent`. Numbers far outside the format are told by
their size alone. -/
def ofDecimal (negative : Bool) (digits : Nat) (exponent : Int) : Binary64 :=
  let size : Int := (Nat.toDigits 10 digits).length + exponent
  if digits = 0 then .finite negative 0 minExponent
  else if 400 < size then .infinity negative
  else if size < -400 then .finite negative 0 minExponent
  else if 0 ≤ exponent then ofRatio negative (digits * Nat.pow 10 exponent.toNat) 1
  else ofRatio negative digits (Nat.pow 10 (-exponent).toNat)

/-- A finite magnitude as a quotient of whole numbers. -/
def ratio (mantissa : Nat) (exponent : Int) : Nat × Nat :=
  if 0 ≤ exponent then (mantissa <<< exponent.toNat, 1) else (mantissa, 1 <<< (-exponent).toNat)

/-- The exact value of a finite number as numerator and denominator. -/
def toRatio? : Binary64 → Option (Int × Nat)
  | .finite negative m e =>
    let (a, b) := ratio m e
    some (if negative then -(a : Int) else a, b)
  | _ => none

/-- How two numbers stand to each other; `none` if one of them is not a number. -/
def compare? : Binary64 → Binary64 → Option Ordering
  | .nan, _ => none
  | _, .nan => none
  | .infinity s, .infinity t => some (compare t s)
  | .infinity s, .finite .. => some (if s then .lt else .gt)
  | .finite .., .infinity t => some (if t then .gt else .lt)
  | .finite s m e, .finite t n f =>
    let (a, b) := ratio m e
    let (c, d) := ratio n f
    let a : Int := if s then -(a : Int) else a
    let c : Int := if t then -(c : Int) else c
    some (compare (a * d) (c * b))

/-- How a number stands to a whole number, without rounding the latter. -/
def compareInt? (x : Binary64) (i : Int) : Option Ordering :=
  match x with
  | .nan => none
  | .infinity s => some (if s then .lt else .gt)
  | .finite s m e =>
    let (a, b) := ratio m e
    let a : Int := if s then -(a : Int) else a
    some (compare a (i * b))

/-- `x ≤ y`; false if one of them is not a number. -/
def le (x y : Binary64) : Bool :=
  match compare? x y with
  | some .gt | none => false
  | _ => true

/-- Numerical equality, which ignores the sign of zero. -/
def same (x y : Binary64) : Bool :=
  compare? x y == some .eq

/-- The nearest whole number, a tie going to the even one; `none` for infinities and for what is not
a number. -/
def round? : Binary64 → Option Int
  | .finite negative m e =>
    let (a, b) := ratio m e
    let q := divNearest a b
    some (if negative then -(q : Int) else q)
  | _ => none

/-- Changes the sign. -/
def neg : Binary64 → Binary64
  | .nan => .nan
  | .infinity s => .infinity !s
  | .finite s m e => .finite (!s) m e

/-- The sum of two numbers. -/
def add : Binary64 → Binary64 → Binary64
  | .nan, _ => .nan
  | _, .nan => .nan
  | .infinity s, .infinity t => if s = t then .infinity s else .nan
  | .infinity s, .finite .. => .infinity s
  | .finite .., .infinity t => .infinity t
  | .finite s m e, .finite t n f =>
    let (a, b) := ratio m e
    let (c, d) := ratio n f
    let a : Int := if s then -(a : Int) else a
    let c : Int := if t then -(c : Int) else c
    let sum := a * d + c * b
    if sum = 0 then .finite (s && t) 0 minExponent
    else ofRatio (decide (sum < 0)) sum.natAbs (b * d)

/-- The product of two numbers. -/
def mul : Binary64 → Binary64 → Binary64
  | .nan, _ => .nan
  | _, .nan => .nan
  | .infinity s, .infinity t => .infinity (s != t)
  | .infinity s, .finite t n _ => if n = 0 then .nan else .infinity (s != t)
  | .finite s m _, .infinity t => if m = 0 then .nan else .infinity (s != t)
  | .finite s m e, .finite t n f =>
    let (a, b) := ratio m e
    let (c, d) := ratio n f
    ofRatio (s != t) (a * c) (b * d)

end Binary64

end ClusterPlan
