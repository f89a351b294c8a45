import ClusterPlan.Binary64.Basic
import Mathlib.Algebra.Group.Nat.Defs

/-!
# Rounding a quotient

A quotient of whole numbers rounds to infinity exactly when it reaches `overflow`
(`ofRatio_eq_infinity_iff`). Else it rounds to a number that is near to it (`near_ofRatio`), and so is the
whole number to which that one rounds (`near_nearest`).
-/

namespace ClusterPlan.Binary64

/-- Half of the distance between the largest numbers. -/
def lastHalf : Nat := 2 ^ 970

/-- The least whole number that rounds to infinity. -/
def overflow : Nat := (2 ^ 54 - 1) * lastHalf

/-- Two numbers are at most `err` apart. -/
def Near (err x y : Nat) : Prop :=
  x ≤ y + err ∧ y ≤ x + err

section
variable {err err' x y z : Nat}

/-- What is near stays near on a larger scale. -/
theorem Near.mul_right (h : Near err x y) (k : Nat) : Near (err * k) (x * k) (y * k) := by
  rw [Near, ← Nat.add_mul, ← Nat.add_mul]
  exact ⟨Nat.mul_le_mul_right k h.1, Nat.mul_le_mul_right k h.2⟩

/-- What is near on a larger scale was near before. -/
theorem Near.of_mul_right {k : Nat} (hk : 0 < k) (h : Near (err * k) (x * k) (y * k)) : Near err x y := by
  rw [Near, ← Nat.add_mul, ← Nat.add_mul] at h
  exact ⟨Nat.le_of_mul_le_mul_right h.1 hk, Nat.le_of_mul_le_mul_right h.2 hk⟩

/-- The distance of the two numbers themselves. -/
theorem Near.natAbs_mul_le {k : Nat} (h : Near err (x * k) (y * k)) :
    ((x : Int) - y).natAbs * k ≤ err := by
  obtain ⟨h1, h2⟩ := h
  rcases Nat.le_total x y with hxy | hxy
  · rw [show ((x : Int) - y).natAbs = y - x by omega, Nat.sub_mul]
    omega
  · rw [show ((x : Int) - y).natAbs = x - y by omega, Nat.sub_mul]
    omega

/-- A larger error may be allowed. -/
theorem Near.mono (h : Near err x y) (he : err ≤ err') : Near err' x y :=
  ⟨Nat.le_trans h.1 (Nat.add_le_add_left he y), Nat.le_trans h.2 (Nat.add_le_add_left he x)⟩

/-- Two errors add up. -/
theorem Near.trans (h : Near err x y) (h' : Near err' y z) : Near (err + err') x z := by
  simp only [Near] at *
  omega

end

/-! ## Whole quotients -/

/-- The nearest whole number is the quotient or the one after it, whichever the remainder is closer to. -/
theorem divNearest_cases (a b : Nat) :
    divNearest a b = a / b ∧ 2 * (a % b) ≤ b ∨ divNearest a b = a / b + 1 ∧ b ≤ 2 * (a % b) := by
  simp only [divNearest]
  split
  · next h => exact .inr ⟨rfl, by grind⟩
  · next h => exact .inl ⟨rfl, by grind⟩

/-- The nearest multiple is off by at most half of the divisor. -/
theorem near_divNearest {a b : Nat} (hb : 0 < b) : Near b (divNearest a b * b * 2) (a * 2) := by
  have hdiv := Nat.div_add_mod' a b
  have hmod := Nat.mod_lt a hb
  rcases divNearest_cases a b with ⟨hq, hr⟩ | ⟨hq, hr⟩
  · rw [hq, Near]
    omega
  · rw [hq, Near, Nat.add_one_mul (a / b)]
    omega

/-- A tie goes up from an odd number. -/
theorem lt_divNearest_iff {a b n : Nat} (hb : 0 < b) (hn : n % 2 = 1) :
    n < divNearest a b ↔ (2 * n + 1) * b ≤ 2 * a := by
  have hdiv := Nat.div_add_mod' a b
  have hmod := Nat.mod_lt a hb
  have hmul : (2 * n + 1) * b = 2 * (n * b) + b := by rw [Nat.add_mul, Nat.one_mul, Nat.mul_assoc]
  rw [hmul]
  rcases Nat.lt_trichotomy n (a / b) with h | h | h
  · have hle : (n + 1) * b ≤ a / b * b := Nat.mul_le_mul_right b h
    rw [Nat.add_one_mul] at hle
    rcases divNearest_cases a b with ⟨hq, -⟩ | ⟨hq, -⟩ <;> omega
  · subst h
    simp only [divNearest]
    split <;> grind
  · have hle : (a / b + 1) * b ≤ n * b := Nat.mul_le_mul_right b h
    rw [Nat.add_one_mul] at hle
    rcases divNearest_cases a b with ⟨hq, -⟩ | ⟨hq, -⟩ <;> omega

/-! ## The exponent -/

/-- A positive exponent makes the denominator larger. -/
theorem scale_natCast (num den k : Nat) : scale num den k = (num, den * 2 ^ k) := by
  rw [scale, if_pos (Int.natCast_nonneg k), Int.toNat_natCast, Nat.shiftLeft_eq]

/-- A negative exponent makes the numerator larger. -/
theorem scale_neg_natCast (num den j : Nat) : scale num den (-j) = (num * 2 ^ j, den) := by
  cases j with
  | zero => simp [scale]
  | succ j => rw [scale, if_neg (by omega), Int.neg_neg, Int.toNat_natCast, Nat.shiftLeft_eq]

section
variable {num den : Nat}

/-- The exponent is the largest at which the mantissa has its 53 bits. -/
theorem natCast_le_exponentOf_iff (hn : 0 < num) (hd : 0 < den) (k : Nat) :
    (k : Int) ≤ exponentOf num den ↔ den * 2 ^ k * 2 ^ 52 ≤ num := by
  have hnum : 2 ^ num.log2 ≤ num := Nat.log2_self_le (Nat.ne_of_gt hn)
  have hnum' : num < 2 ^ (num.log2 + 1) := Nat.lt_log2_self
  have hden : 2 ^ den.log2 ≤ den := Nat.log2_self_le (Nat.ne_of_gt hd)
  have hden' : den < 2 ^ (den.log2 + 1) := Nat.lt_log2_self
  rw [Nat.mul_assoc, ← Nat.pow_add]
  simp only [exponentOf, minExponent]
  rcases Nat.lt_trichotomy (k + 52 + den.log2) num.log2 with h | h | h
  · have hle : den * 2 ^ (k + 52) ≤ num := by
      calc den * 2 ^ (k + 52) ≤ 2 ^ (den.log2 + 1) * 2 ^ (k + 52) :=
            Nat.mul_le_mul_right _ (Nat.le_of_lt hden')
        _ = 2 ^ (den.log2 + 1 + (k + 52)) := (Nat.pow_add ..).symm
        _ ≤ 2 ^ num.log2 := Nat.pow_le_pow_right (by decide) (by omega)
        _ ≤ num := hnum
    split <;> omega
  · -- the two powers of two leave open which of two exponents it is
    rw [show (num.log2 : Int) - den.log2 - 53 = (k : Int) - 1 by omega]
    cases k with
    | zero =>
      have hscale : scale num den ((0 : Nat) - 1) = (num * 2, den) := scale_neg_natCast num den 1
      simp only [hscale, Nat.shiftLeft_eq]
      split <;> omega
    | succ i =>
      have hscale : scale num den ((i + 1 : Nat) - 1) = (num, den * 2 ^ i) := by
        rw [show ((i + 1 : Nat) : Int) - 1 = i by omega]
        exact scale_natCast num den i
      have hpow : den * 2 ^ i * 2 ^ 53 = den * 2 ^ (i + 1 + 52) := by
        rw [Nat.mul_assoc, ← Nat.pow_add, Nat.add_right_comm]
      simp only [hscale, Nat.shiftLeft_eq, hpow]
      split <;> omega
  · have hlt : num < den * 2 ^ (k + 52) := by
      calc num < 2 ^ (num.log2 + 1) := hnum'
        _ ≤ 2 ^ (den.log2 + (k + 52)) := Nat.pow_le_pow_right (by decide) (by omega)
        _ = 2 ^ den.log2 * 2 ^ (k + 52) := Nat.pow_add ..
        _ ≤ den * 2 ^ (k + 52) := Nat.mul_le_mul_right _ hden
    split <;> omega

/-- A quotient that is below a power of two has an exponent below that power. -/
theorem exponentOf_le {k : Nat} (hn : 0 < num) (h : num * 2 ^ k < den) (hk : k ≤ 1021) :
    exponentOf num den ≤ -(53 + k : Nat) := by
  have hd : den ≠ 0 := by omega
  have hlog : num.log2 + k < den.log2 + 1 := by
    refine (Nat.pow_lt_pow_iff_right (a := 2) (by decide)).1 ?_
    calc 2 ^ (num.log2 + k) = 2 ^ num.log2 * 2 ^ k := Nat.pow_add ..
      _ ≤ num * 2 ^ k := Nat.mul_le_mul_right _ (Nat.log2_self_le (Nat.ne_of_gt hn))
      _ < den := h
      _ < 2 ^ (den.log2 + 1) := Nat.lt_log2_self
  simp only [exponentOf, minExponent]
  rcases Nat.lt_or_eq_of_le (Nat.le_of_lt_succ hlog) with hlt | heq
  · split <;> omega
  · have hscale : scale num den (-(53 + k : Nat)) = (num * 2 ^ (53 + k), den) := scale_neg_natCast ..
    have hsmall : num * 2 ^ (53 + k) < den * 2 ^ 53 := by
      rw [Nat.add_comm, Nat.pow_add, ← Nat.mul_assoc]
      exact Nat.mul_lt_mul_of_pos_right h (by decide)
    rw [show (num.log2 : Int) - den.log2 - 53 = -(53 + k : Nat) by omega, hscale]
    simp only [Nat.shiftLeft_eq, hsmall, if_true]
    omega

/-- At the exponent of a power of two a short number needs no fraction. -/
theorem exponentOf_two_pow_le {k : Nat} (hn : 0 < num) (hnum : num < 2 ^ 53) (hk : k ≤ 1074) :
    exponentOf num (2 ^ k) ≤ -k := by
  have hlog : num.log2 < 53 := (Nat.log2_lt (Nat.ne_of_gt hn)).2 hnum
  simp only [exponentOf, minExponent, Nat.log2_two_pow]
  split <;> omega

/-! ## The quotient of a finite number -/

/-- A finite number whose exponent is not negative is a whole number. -/
theorem ratio_natCast (m k : Nat) : ratio m k = (m * 2 ^ k, 1) := by
  rw [ratio, if_pos (Int.natCast_nonneg k), Int.toNat_natCast, Nat.shiftLeft_eq]

/-- A finite number with a negative exponent is a quotient by a power of two. -/
theorem ratio_neg_natCast (m j : Nat) : ratio m (-j) = (m, 2 ^ j) := by
  cases j with
  | zero => simp [ratio]
  | succ j =>
    rw [ratio, if_neg (by omega), Int.neg_neg, Int.toNat_natCast, Nat.shiftLeft_eq, Nat.one_mul]

/-- The denominator is not zero. -/
theorem ratio_pos (m : Nat) (e : Int) : 0 < (ratio m e).2 := by
  obtain ⟨k, rfl | rfl⟩ := e.eq_nat_or_neg
  · rw [ratio_natCast]
    exact Nat.one_pos
  · rw [ratio_neg_natCast]
    exact Nat.two_pow_pos k

/-- A mantissa that is carried to the next exponent stands for the same number. -/
theorem ratio_carry (e : Int) :
    (ratio (2 ^ 52) (e + 1)).1 * (ratio (2 ^ 53) e).2 =
      (ratio (2 ^ 53) e).1 * (ratio (2 ^ 52) (e + 1)).2 := by
  obtain ⟨k, rfl | rfl⟩ := e.eq_nat_or_neg
  · rw [ratio_natCast, show (k : Int) + 1 = (k + 1 : Nat) from rfl, ratio_natCast]
    omega
  · cases k with
    | zero => rfl
    | succ j =>
      rw [ratio_neg_natCast, show -((j + 1 : Nat) : Int) + 1 = -j by omega, ratio_neg_natCast]
      omega

/-! ## Rounding -/

/-- The mantissa before a carry. -/
def mantissaOf (num den : Nat) : Nat :=
  divNearest (scale num den (exponentOf num den)).1 (scale num den (exponentOf num den)).2

/-- A positive quotient is rounded to a mantissa and an exponent. -/
theorem ofRatio_eq (s : Bool) (hn : 0 < num) (hd : 0 < den) :
    ofRatio s num den = ofMantissa s (mantissaOf num den) (exponentOf num den) := by
  have hpos : ¬ (num = 0 || den = 0) = true := by simp [Nat.ne_of_gt hn, Nat.ne_of_gt hd]
  exact if_neg hpos

/-- A mantissa that was rounded up to the next power of two is halved. -/
theorem ofMantissa_eq (s : Bool) (m : Nat) (e : Int) :
    ofMantissa s m e = if m = 2 ^ 53 then bounded s (2 ^ 52) (e + 1) else bounded s m e := by
  simp only [ofMantissa, Nat.shiftLeft_eq, Nat.one_mul]

/-- A finite number stands for the mantissa and the exponent of which it was made. -/
theorem ratio_of_ofMantissa {s : Bool} {m m' : Nat} {e e' : Int}
    (h : ofMantissa s m e = .finite s m' e') :
    (ratio m' e').1 * (ratio m e).2 = (ratio m e).1 * (ratio m' e').2 := by
  rw [ofMantissa_eq] at h
  split at h
  · next hm =>
    rw [bounded] at h
    split at h
    · cases h
    · cases h
      rw [hm]
      exact ratio_carry e
  · rw [bounded] at h
    split at h
    · cases h
    · cases h
      rfl

section
variable {s : Bool} {m : Nat} {e : Int}

/-- Where the unit in the last place is whole, a rounded quotient is off by a share of itself. -/
theorem near_of_nonneg (hn : 0 < num) (hd : 0 < den) (h : ofRatio s num den = .finite s m e) {k : Nat}
    (hk : exponentOf num den = k) :
    Near (num * (ratio m e).2) ((ratio m e).1 * den * 2 ^ 53) (num * (ratio m e).2 * 2 ^ 53) := by
  have hm : mantissaOf num den = divNearest num (den * 2 ^ k) := by
    rw [mantissaOf, hk, scale_natCast]
  rw [ofRatio_eq s hn hd, hk, hm] at h
  have hratio := ratio_of_ofMantissa h
  rw [ratio_natCast, Nat.mul_one] at hratio
  have hnear := (near_divNearest (a := num) (Nat.mul_pos hd (Nat.two_pow_pos k))).mul_right
    ((ratio m e).2 * 2 ^ 52)
  have hunit : den * 2 ^ k * 2 ^ 52 ≤ num := (natCast_le_exponentOf_iff hn hd k).1 (Int.le_of_eq hk.symm)
  rw [hratio]
  generalize (ratio m e).2 = b, divNearest num (den * 2 ^ k) = c at *
  have hx : c * (den * 2 ^ k) * 2 * (b * 2 ^ 52) = c * 2 ^ k * b * den * 2 ^ 53 := by grind
  have hy : num * 2 * (b * 2 ^ 52) = num * b * 2 ^ 53 := by grind
  rw [hx, hy] at hnear
  refine hnear.mono ?_
  calc den * 2 ^ k * (b * 2 ^ 52) = den * 2 ^ k * 2 ^ 52 * b := by grind
    _ ≤ num * b := Nat.mul_le_mul_right b hunit

/-- Else the mantissa is the nearest whole number of units. -/
theorem ratio_of_neg (hn : 0 < num) (hd : 0 < den) (h : ofRatio s num den = .finite s m e) {j : Nat}
    (hj : exponentOf num den = -j) :
    (ratio m e).1 * 2 ^ j = divNearest (num * 2 ^ j) den * (ratio m e).2 := by
  have hm : mantissaOf num den = divNearest (num * 2 ^ j) den := by
    rw [mantissaOf, hj, scale_neg_natCast]
  rw [ofRatio_eq s hn hd, hj, hm] at h
  have hratio := ratio_of_ofMantissa h
  rwa [ratio_neg_natCast] at hratio

/-- So the quotient is off by at most half a unit. -/
theorem near_of_neg (hn : 0 < num) (hd : 0 < den) (h : ofRatio s num den = .finite s m e) {j : Nat}
    (hj : exponentOf num den = -j) :
    Near (den * (ratio m e).2) ((ratio m e).1 * den * 2 ^ (j + 1))
      (num * (ratio m e).2 * 2 ^ (j + 1)) := by
  have hratio := ratio_of_neg hn hd h hj
  have hnear := (near_divNearest (a := num * 2 ^ j) hd).mul_right (ratio m e).2
  generalize (ratio m e).1 = a, (ratio m e).2 = b, divNearest (num * 2 ^ j) den = c at *
  have hx : c * den * 2 * b = a * den * 2 ^ (j + 1) := by grind
  have hy : num * 2 ^ j * 2 * b = num * b * 2 ^ (j + 1) := by grind
  rwa [hx, hy] at hnear

/-- A rounded quotient is near to the quotient. -/
theorem near_ofRatio (hn : 0 < num) (hd : 0 < den) (h : ofRatio s num den = .finite s m e) :
    Near ((den * 2 ^ 52 + num) * (ratio m e).2) ((ratio m e).1 * den * 2 ^ 53)
      (num * (ratio m e).2 * 2 ^ 53) := by
  obtain ⟨k, hk | hk⟩ := (exponentOf num den).eq_nat_or_neg
  · refine (near_of_nonneg hn hd h hk).mono ?_
    exact Nat.mul_le_mul_right _ (Nat.le_add_left num _)
  · have hnear := (near_of_neg hn hd h hk).mul_right (2 ^ 52)
    generalize (ratio m e).1 = a, (ratio m e).2 = b at *
    have hx : a * den * 2 ^ (k + 1) * 2 ^ 52 = a * den * 2 ^ 53 * 2 ^ k := by grind
    have hy : num * b * 2 ^ (k + 1) * 2 ^ 52 = num * b * 2 ^ 53 * 2 ^ k := by grind
    rw [hx, hy] at hnear
    refine Near.of_mul_right (Nat.two_pow_pos k) (hnear.mono ?_)
    calc den * b * 2 ^ 52 = den * 2 ^ 52 * b := by grind
      _ ≤ (den * 2 ^ 52 + num) * b := Nat.mul_le_mul_right b (Nat.le_add_right ..)
      _ ≤ (den * 2 ^ 52 + num) * b * 2 ^ k := Nat.le_mul_of_pos_right _ (Nat.two_pow_pos k)

/-- The whole number nearest to a finite magnitude. -/
def nearest (m : Nat) (e : Int) : Nat :=
  divNearest (ratio m e).1 (ratio m e).2

/-- So is the whole number to which it rounds. -/
theorem near_nearest (hn : 0 < num) (hd : 0 < den) (h : ofRatio s num den = .finite s m e) :
    Near (den * 2 ^ 53 + num) (nearest m e * den * 2 ^ 53) (num * 2 ^ 53) := by
  rw [nearest]
  have hb := ratio_pos m e
  have hwhole := (near_divNearest (a := (ratio m e).1) hb).mul_right (den * 2 ^ 52)
  have hquot := near_ofRatio hn hd h
  generalize (ratio m e).1 = a, (ratio m e).2 = b at *
  have hx : divNearest a b * b * 2 * (den * 2 ^ 52) = divNearest a b * den * 2 ^ 53 * b := by grind
  have hy : a * 2 * (den * 2 ^ 52) = a * den * 2 ^ 53 := by grind
  have hz : num * b * 2 ^ 53 = num * 2 ^ 53 * b := by grind
  rw [hx, hy] at hwhole
  rw [hz] at hquot
  refine Near.of_mul_right hb ((hwhole.trans hquot).mono ?_)
  grind

end

/-! ## Overflow -/

/-- A number overflows when its exponent is too large, after the halving if there is one. -/
theorem ofMantissa_eq_infinity_iff {s : Bool} {m : Nat} {e : Int} :
    ofMantissa s m e = .infinity s ↔ maxExponent < e ∨ m = 2 ^ 53 ∧ maxExponent < e + 1 := by
  rw [ofMantissa_eq]
  split
  · next hm =>
    simp only [bounded, hm, true_and]
    split
    · next he => simp [he]
    · next he => simp only [reduceCtorEq, false_iff]; omega
  · next hm =>
    simp only [bounded, hm, false_and, or_false]
    split
    · next he => simp [he]
    · next he => simp [he]

/-- Powers of two can be drawn to the front. -/
theorem mul_two_pow_add (x n i : Nat) : x * 2 ^ (n + i) = 2 ^ i * (x * 2 ^ n) := by
  rw [Nat.pow_add, Nat.mul_comm (2 ^ n), Nat.mul_left_comm]

/-- Powers of two can be drawn to the front of half a unit at the largest exponent. -/
theorem mul_lastHalf (x i : Nat) : x * 2 ^ (970 + i) = 2 ^ i * (x * lastHalf) := by
  rw [mul_two_pow_add, ← lastHalf]

/-- Half a unit at the largest exponent is positive. -/
theorem lastHalf_pos : 0 < lastHalf := by
  decide +kernel

/-- At the largest exponent a mantissa is carried when it is within half a unit of the next exponent. -/
theorem divNearest_eq_carry_iff {x : Nat} (hx : 0 < x) (hlt : num < 2 ^ 54 * x) :
    divNearest num (2 * x) = 2 ^ 53 ↔ (2 ^ 54 - 1) * x ≤ num := by
  have hle : divNearest num (2 * x) ≤ 2 ^ 53 := by
    have hnear := (near_divNearest (a := num) (b := 2 * x) (by omega)).1
    refine Nat.le_of_not_lt fun h => ?_
    have := Nat.mul_le_mul_right (2 * x) (Nat.succ_le_of_lt h)
    omega
  have hge := lt_divNearest_iff (a := num) (b := 2 * x) (n := 2 ^ 53 - 1) (by omega) rfl
  omega

/-- A quotient rounds to infinity exactly when it reaches `overflow`. -/
theorem ofRatio_eq_infinity_iff (s : Bool) (hn : 0 < num) (hd : 0 < den) :
    ofRatio s num den = .infinity s ↔ overflow * den ≤ num := by
  have hexp (i : Nat) : ((970 + i : Nat) : Int) ≤ exponentOf num den ↔
      2 ^ i * (den * lastHalf) * 2 ^ 52 ≤ num := by
    rw [← mul_lastHalf]
    exact natCast_le_exponentOf_iff hn hd (970 + i)
  have hscale (i : Nat) : scale num den (970 + i : Nat) = (num, 2 ^ i * (den * lastHalf)) := by
    rw [scale_natCast, mul_lastHalf]
  have hbound : overflow * den = (2 ^ 54 - 1) * (den * lastHalf) := by
    rw [overflow, Nat.mul_right_comm, Nat.mul_assoc]
  have hx : 0 < den * lastHalf := Nat.mul_pos hd lastHalf_pos
  rw [ofRatio_eq s hn hd, ofMantissa_eq_infinity_iff, maxExponent, hbound]
  generalize den * lastHalf = x at *
  have hlargest := hexp 1
  have hbeyond := hexp 2
  rcases Int.lt_trichotomy (exponentOf num den) 971 with he | he | he
  · omega
  · have hm : mantissaOf num den = divNearest num (2 * x) := by
      rw [mantissaOf, he]
      exact congrArg (fun p => divNearest p.1 p.2) (hscale 1)
    rw [hm, divNearest_eq_carry_iff hx (by omega)]
    omega
  · omega

/-- A mantissa makes a finite number or overflows. -/
theorem ofMantissa_cases (s : Bool) (m : Nat) (e : Int) :
    ofMantissa s m e = .infinity s ∨ ∃ m' e', ofMantissa s m e = .finite s m' e' := by
  simp only [ofMantissa_eq, bounded]
  split <;> split
  · exact .inl rfl
  · exact .inr ⟨_, _, rfl⟩
  · exact .inl rfl
  · exact .inr ⟨_, _, rfl⟩

/-- Below `overflow` a quotient rounds to a finite number. -/
theorem exists_ofRatio (s : Bool) (hn : 0 < num) (hd : 0 < den) (h : num < overflow * den) :
    ∃ m e, ofRatio s num den = .finite s m e := by
  rw [ofRatio_eq s hn hd]
  refine (ofMantissa_cases ..).resolve_left fun hinf => Nat.not_le_of_lt h ?_
  rw [← ofRatio_eq_infinity_iff s hn hd, ofRatio_eq s hn hd, hinf]

end

end ClusterPlan.Binary64
