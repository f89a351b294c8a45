import ClusterPlan.Proofs.Rounding

/-!
# Quotients that are compared

The whole number nearest to a quotient depends on the quotient alone (`divNearest_eq_of_ratio`), and no other
whole number is nearer (`isNearest_iff`). The quotient of a short number by a power of two is not rounded at all
(`ratio_of_two_pow`). Another quotient can be rounded, but comparing it with one part in ten gives what comparing
the quotient itself gives: always if the quotient is within the bound (`le_tenth`), and for short numbers if it is
not (`le_tenth_iff`).
-/

namespace ClusterPlan.Binary64

section
variable {num den : Nat}

/-! ## The nearest whole number -/

/-- How far a multiple of `den` is from `num`. -/
def distance (q den num : Nat) : Nat :=
  ((q * den : Int) - num).natAbs

/-- `q` is the whole number nearest to `num / den`, the even one of two that are equally near. -/
structure IsNearest (num den q : Nat) : Prop where
  nearest : ∀ k, distance q den num ≤ distance k den num
  even : ∀ k, k ≠ q → distance q den num = distance k den num → q % 2 = 0

/-- Two multiples that are `j` apart cannot both be near. -/
theorem mul_le_distance_add {p q : Nat} (j : Nat) (h : p + j ≤ q ∨ q + j ≤ p) :
    j * den ≤ distance p den num + distance q den num := by
  simp only [distance, ← Int.natCast_mul]
  rcases h with h | h
  all_goals
    have hmul := Nat.mul_le_mul_right den h
    rw [Nat.add_mul] at hmul
    omega

theorem distance_divNearest (num : Nat) (hd : 0 < den) : 2 * distance (divNearest num den) den num ≤ den ∧
    (2 * distance (divNearest num den) den num = den → divNearest num den % 2 = 0) := by
  have hdiv : ((num / den : Nat) : Int) * den + (num % den : Nat) = num := by
    exact_mod_cast Nat.div_add_mod' num den
  have hmod := Nat.mod_lt num hd
  simp only [distance, divNearest]
  split
  · rw [Int.natCast_add, Int.add_mul, Int.natCast_one, Int.one_mul]
    grind
  · grind

/-- There is one nearest whole number. -/
theorem isNearest_iff {q : Nat} (hd : 0 < den) : IsNearest num den q ↔ q = divNearest num den := by
  obtain ⟨hle, heven⟩ := distance_divNearest num hd
  generalize divNearest num den = p at *
  have hother {k : Nat} (hk : k ≠ p) : 1 * den ≤ distance p den num + distance k den num :=
    mul_le_distance_add 1 (by omega)
  constructor
  · intro hq
    refine Decidable.byContradiction fun hne => ?_
    have hone := hother hne
    have hnearest := hq.nearest p
    have hqeven := hq.even p (Ne.symm hne)
    -- both are equally near and even, and so they are two or more apart
    have htwo : 2 * den ≤ distance p den num + distance q den num := mul_le_distance_add 2 (by omega)
    omega
  · rintro rfl
    refine ⟨fun k => ?_, fun k hk heq => ?_⟩
    · rcases Decidable.em (k = q) with rfl | hk
      · exact Nat.le_refl _
      · have hone := hother hk
        omega
    · have hone := hother hk
      omega

/-- Equal quotients have the same nearest whole number. -/
theorem divNearest_eq_of_ratio {a b : Nat} (hb : 0 < b) (hd : 0 < den) (h : a * den = num * b) :
    divNearest a b = divNearest num den := by
  have hscale {x y k : Nat} (hk : 0 < k) : divNearest (x * k) (y * k) = divNearest x y := by
    simp only [divNearest, Nat.mul_div_mul_right _ _ hk, Nat.mul_mod_mul_right, ← Nat.mul_assoc,
      Nat.mul_lt_mul_right hk, Nat.mul_left_inj (Nat.ne_of_gt hk)]
  calc divNearest a b = divNearest (a * den) (b * den) := (hscale hd).symm
    _ = divNearest (num * b) (den * b) := by rw [h, Nat.mul_comm b]
    _ = divNearest num den := hscale hb

theorem divNearest_mul_self (q : Nat) (hd : 0 < den) : divNearest (q * den) den = q := by
  simp [divNearest, Nat.mul_div_cancel q hd, Nat.ne_of_gt hd]

/-- The quotient of a short number by a power of two is exact. -/
theorem ratio_of_two_pow {k : Nat} (hn : 0 < num) (hnum : num < 2 ^ 53) (hk : k ≤ 1074) {s : Bool} {m : Nat}
    {e : Int} (h : ofRatio s num (2 ^ k) = .finite s m e) :
    (ratio m e).1 * 2 ^ k = num * (ratio m e).2 := by
  obtain ⟨i, hi⟩ : ∃ i : Nat, exponentOf num (2 ^ k) = -(k + i : Nat) := by
    have he := exponentOf_two_pow_le hn hnum hk
    exact ⟨(-exponentOf num (2 ^ k) - k).toNat, by omega⟩
  have hratio := ratio_of_neg hn (Nat.two_pow_pos k) h hi
  have hwhole : divNearest (num * 2 ^ (k + i)) (2 ^ k) = num * 2 ^ i := by
    rw [Nat.add_comm, Nat.pow_add, ← Nat.mul_assoc]
    exact divNearest_mul_self _ (Nat.two_pow_pos k)
  rw [hwhole] at hratio
  refine Nat.eq_of_mul_eq_mul_right (Nat.two_pow_pos i) ?_
  calc (ratio m e).1 * 2 ^ k * 2 ^ i = (ratio m e).1 * 2 ^ (k + i) := by rw [Nat.mul_assoc, ← Nat.pow_add]
    _ = num * 2 ^ i * (ratio m e).2 := hratio
    _ = num * (ratio m e).2 * 2 ^ i := Nat.mul_right_comm ..

section
variable {m : Nat} {e : Int}

/-- A number that stands for a quotient rounds to the whole number that is nearest to the quotient. -/
theorem nearest_of_ratio (hd : 0 < den) (h : (ratio m e).1 * den = num * (ratio m e).2) :
    nearest m e = divNearest num den :=
  divNearest_eq_of_ratio (ratio_pos m e) hd h

/-! ## Comparisons -/

theorem compareInt?_finite (s : Bool) (m : Nat) (e i : Int) :
    (finite s m e).compareInt? i =
      some (compare (if s then -((ratio m e).1 : Int) else (ratio m e).1) (i * (ratio m e).2)) :=
  rfl

/-- A number of which the sign is negative is below one. -/
theorem compareInt?_one_of_neg (m : Nat) (e : Int) : (finite true m e).compareInt? 1 = some .lt := by
  have hb := ratio_pos m e
  rw [compareInt?_finite]
  refine congrArg some (Int.compare_eq_lt.2 ?_)
  simp only [if_true]
  omega

/-- Another number is below one exactly if its quotient is. -/
theorem compareInt?_one_iff :
    (finite false m e).compareInt? 1 = some .lt ↔ (ratio m e).1 < (ratio m e).2 := by
  rw [compareInt?_finite, Option.some.injEq, Int.compare_eq_lt, Int.one_mul]
  exact Int.ofNat_lt

theorem compareInt?_one_of_ratio (hd : 0 < den) (h : (ratio m e).1 * den = num * (ratio m e).2) :
    (finite false m e).compareInt? 1 = some .lt ↔ num < den := by
  rw [compareInt?_one_iff, ← Nat.mul_lt_mul_right hd, h, Nat.mul_comm num,
    Nat.mul_lt_mul_left (ratio_pos m e)]

/-- A number that rounds to two or more is not below one. -/
theorem compareInt?_one_of_nearest (h : 2 ≤ nearest m e) :
    (finite false m e).compareInt? 1 ≠ some .lt := by
  rw [nearest] at h
  have hb := ratio_pos m e
  have hnear := (near_divNearest (a := (ratio m e).1) hb).1
  have hmul := Nat.mul_le_mul_right (ratio m e).2 h
  rw [Ne, compareInt?_one_iff]
  omega

end

/-- Numbers are compared as the quotients for which they stand. -/
theorem le_iff_ratio {m n : Nat} {e f : Int} : (finite false m e).le (finite false n f) = true ↔
    (ratio m e).1 * (ratio n f).2 ≤ (ratio n f).1 * (ratio m e).2 := by
  have hcompare : compare? (finite false m e) (finite false n f) =
      some (compare ((ratio m e).1 * (ratio n f).2 : Int) ((ratio n f).1 * (ratio m e).2)) := rfl
  have hle : compare ((ratio m e).1 * (ratio n f).2 : Int) ((ratio n f).1 * (ratio m e).2) ≠ .gt ↔
      (ratio m e).1 * (ratio n f).2 ≤ (ratio n f).1 * (ratio m e).2 := by
    rw [Int.compare_ne_gt]
    exact_mod_cast Iff.rfl
  rw [← hle, le, hcompare]
  split
  · next hgt => simp [Option.some.inj hgt]
  · next hnone => cases hnone
  · next hgt _ => exact iff_of_true rfl fun h => hgt (congrArg some h)

/-! ## One part in ten -/

/-- The mantissa of the number nearest to one part in ten. -/
def tenthMantissa : Nat := 7205759403792794

theorem ofRatio_tenth : ofRatio false 1 10 = finite false tenthMantissa (-56 : Int) := by
  decide +kernel

/-- A quotient below a power of two is compared with one part in ten by its mantissa. -/
theorem exists_le_tenth_iff {k : Nat} (hn : 0 < num) (h : num * 2 ^ k < den) (hk : k ≤ 1021) :
    ∃ j, 53 + k ≤ j ∧ ((ofRatio false num den).le (ofRatio false 1 10) = true ↔
      divNearest (num * 2 ^ j) den * 2 ^ 56 ≤ tenthMantissa * 2 ^ j) := by
  have hd : 0 < den := Nat.zero_lt_of_lt h
  have hlt : num < overflow * den := by
    have hover := Nat.mul_le_mul_right den (show 1 ≤ overflow by decide +kernel)
    have hpow : num ≤ num * 2 ^ k := Nat.le_mul_of_pos_right num (Nat.two_pow_pos k)
    omega
  obtain ⟨m, e, hfinite⟩ := exists_ofRatio false hn hd hlt
  obtain ⟨i, hi⟩ : ∃ i : Nat, exponentOf num den = -(53 + k + i : Nat) := by
    have he := exponentOf_le hn h hk
    exact ⟨(-exponentOf num den - (53 + k)).toNat, by omega⟩
  have hratio := ratio_of_neg hn hd hfinite hi
  have hb := ratio_pos m e
  refine ⟨53 + k + i, Nat.le_add_right .., ?_⟩
  have htenth : ratio tenthMantissa (-56) = (tenthMantissa, 2 ^ 56) := ratio_neg_natCast _ 56
  rw [hfinite, ofRatio_tenth, le_iff_ratio, htenth]
  generalize (ratio m e).1 = a, (ratio m e).2 = b, 53 + k + i = j at *
  generalize divNearest (num * 2 ^ j) den = c at *
  calc a * 2 ^ 56 ≤ tenthMantissa * b
      ↔ a * 2 ^ 56 * 2 ^ j ≤ tenthMantissa * b * 2 ^ j := (Nat.mul_le_mul_right_iff (Nat.two_pow_pos j)).symm
    _ ↔ c * 2 ^ 56 * b ≤ tenthMantissa * 2 ^ j * b := by
        rw [Nat.mul_right_comm a, hratio, Nat.mul_right_comm c, Nat.mul_right_comm tenthMantissa]
    _ ↔ c * 2 ^ 56 ≤ tenthMantissa * 2 ^ j := Nat.mul_le_mul_right_iff hb

/-- A quotient that is within one part in ten is not rounded beyond it. -/
theorem le_tenth (hd : 0 < den) (h : 10 * num ≤ den) :
    (ofRatio false num den).le (ofRatio false 1 10) = true := by
  rcases Nat.eq_zero_or_pos num with rfl | hn
  · rw [ofRatio, if_pos (by simp), ofRatio_tenth]
    decide +kernel
  · obtain ⟨j, hj, hle⟩ := exists_le_tenth_iff hn (show num * 2 ^ 3 < den by omega) (by decide)
    rw [hle]
    obtain ⟨i, rfl⟩ := Nat.exists_eq_add_of_le hj
    have hnear := (near_divNearest (a := num * 2 ^ (53 + 3 + i)) hd).1
    generalize divNearest (num * 2 ^ (53 + 3 + i)) den = c at *
    have hone : 1 ≤ 2 ^ i := Nat.two_pow_pos i
    have hc : 20 * c ≤ 2 * (2 ^ 56 * 2 ^ i) + 10 := by
      refine Nat.le_of_mul_le_mul_right (c := den) ?_ hd
      calc 20 * c * den = 10 * (c * den * 2) := by grind
        _ ≤ 10 * (num * 2 ^ (53 + 3 + i) * 2 + den) := Nat.mul_le_mul_left 10 hnear
        _ = 10 * num * (2 * (2 ^ 56 * 2 ^ i)) + 10 * den := by grind
        _ ≤ den * (2 * (2 ^ 56 * 2 ^ i)) + 10 * den := Nat.add_le_add_right (Nat.mul_le_mul_right _ h) _
        _ = (2 * (2 ^ 56 * 2 ^ i) + 10) * den := by grind
    -- ten times the mantissa of one part in ten is four more than this power of two
    have hbound : c ≤ tenthMantissa * 2 ^ i := by
      simp only [tenthMantissa]
      omega
    calc c * 2 ^ 56 ≤ tenthMantissa * 2 ^ i * 2 ^ 56 := Nat.mul_le_mul_right _ hbound
      _ = tenthMantissa * 2 ^ (53 + 3 + i) := by grind

/-- A quotient of short numbers that is beyond one part in ten is not rounded to it either. -/
theorem le_tenth_iff (hnum : num < den) (hden : den < 2 ^ 50) :
    (ofRatio false num den).le (ofRatio false 1 10) = true ↔ 10 * num ≤ den := by
  have hd : 0 < den := Nat.zero_lt_of_lt hnum
  refine ⟨fun h => ?_, le_tenth hd⟩
  rcases Nat.eq_zero_or_pos num with rfl | hn
  · exact Nat.zero_le den
  · obtain ⟨j, hj, hle⟩ := exists_le_tenth_iff hn (show num * 2 ^ 0 < den by omega) (by decide)
    rw [hle] at h
    obtain ⟨i, rfl⟩ := Nat.exists_eq_add_of_le hj
    have hnear := (near_divNearest (a := num * 2 ^ (53 + 0 + i)) hd).2
    generalize divNearest (num * 2 ^ (53 + 0 + i)) den = c at *
    have hpow : 2 ^ 53 ≤ 2 ^ (53 + 0 + i) := Nat.pow_le_pow_right (by decide) (by omega)
    generalize 2 ^ (53 + 0 + i) = x at *
    have hbound : 10 * num * 2 ^ 56 ≤ (2 ^ 56 + 44) * den := by
      refine Nat.le_of_mul_le_mul_right (c := x) ?_ (by omega)
      calc 10 * num * 2 ^ 56 * x = 5 * 2 ^ 56 * (num * x * 2) := by grind
        _ ≤ 5 * 2 ^ 56 * (c * den * 2 + den) := Nat.mul_le_mul_left _ hnear
        _ = 10 * den * (c * 2 ^ 56) + 40 * den * 2 ^ 53 := by grind
        _ ≤ 10 * den * (tenthMantissa * x) + 40 * den * x :=
          Nat.add_le_add (Nat.mul_le_mul_left _ h) (Nat.mul_le_mul_left _ hpow)
        _ = (2 ^ 56 + 44) * den * x := by grind [tenthMantissa]
    omega

end

end ClusterPlan.Binary64
