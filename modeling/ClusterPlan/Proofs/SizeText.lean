import ClusterPlan.Memory
import ClusterPlan.Proofs.Digits
import ClusterPlan.Proofs.ExactQuotient
import Mathlib.Algebra.Group.Nat.Defs

/-!
# The text of a size

A size is divided by the bytes of a unit in floating point, and the quotient can be too large for that. So a
size has a text exactly when it is within two bounds (`MemorySize.exists_text_iff`): one for sizes that are
positive, which are shown in the largest unit, and one for those that are not, which no unit but the last
shows.
-/

namespace ClusterPlan.MemorySize

open Binary64

/-- A quotient beyond the largest number overflows. -/
theorem quotient_eq_error {num : Int} {den : Nat} (hd : 0 < den) (h : overflow * den ≤ num.natAbs) :
    quotient num den = .error .ratioTooLarge := by
  have hbound : 0 < overflow * den := Nat.mul_pos (by decide +kernel) hd
  rw [quotient, (ofRatio_eq_infinity_iff _ (Nat.lt_of_lt_of_le hbound h) hd).2 h]

/-- A quotient below it is rounded. -/
theorem quotient_natCast {num den : Nat} (hd : 0 < den) (h : num < overflow * den) :
    quotient num den = .ok (ofRatio false num den) := by
  rw [quotient, decide_eq_false (by omega), Int.natAbs_natCast]
  rcases Nat.eq_zero_or_pos num with rfl | hn
  · have hzero : ofRatio false 0 den = .finite false 0 minExponent := if_pos (by simp)
    rw [hzero]
  · obtain ⟨m, e, hfinite⟩ := exists_ofRatio false hn hd h
    rw [hfinite]

/-- A number that is not positive gives a quotient below one in every unit. -/
theorem exists_quotient_of_nonpos {num : Int} {den : Nat} (hd : 0 < den) (hn : num ≤ 0)
    (h : num.natAbs < overflow * den) :
    ∃ x, quotient num den = .ok x ∧ x.compareInt? 1 = some .lt := by
  by_cases hz : num = 0
  · subst hz
    have hzero : ofRatio (decide ((0 : Int) < 0)) (0 : Int).natAbs den = .finite false 0 minExponent :=
      if_pos (by simp)
    rw [quotient, hzero]
    exact ⟨_, rfl, by decide +kernel⟩
  · obtain ⟨m, e, hfinite⟩ := exists_ofRatio (decide (num < 0)) (by omega) hd h
    rw [quotient, hfinite, decide_eq_true (by omega)]
    exact ⟨_, rfl, compareInt?_one_of_neg m e⟩

section
variable {tolerance : Tolerance}

/-- A size that can be written has an exact text. -/
theorem exists_exactText {m : MemorySize} (hw : Text.isWritable m.bytes = true) :
    ∃ s, m.exactText = .ok s := by
  rw [exactText, writeInt_eq_ok hw]
  exact ⟨_, rfl⟩

/-- A size that is not positive is tried in every unit before it is shown in bytes. -/
theorem exists_showIn_of_nonpos {m : MemorySize} (hm : m.bytes ≤ 0) (hw : Text.isWritable m.bytes = true)
    (units : List MemoryUnit) :
    (∃ s, m.showIn tolerance units = .ok s) ↔ ∀ u ∈ units, m.bytes.natAbs < overflow * u.factor := by
  induction units with
  | nil => simpa [showIn] using exists_exactText hw
  | cons u units ih =>
    by_cases hu : m.bytes.natAbs < overflow * u.factor
    · obtain ⟨x, hx, hlt⟩ := exists_quotient_of_nonpos u.factor_pos hm hu
      have hstep : m.showIn tolerance (u :: units) = m.showIn tolerance units := by
        rw [showIn, hx]
        simp [bind, Except.bind, hlt]
      rw [hstep, ih]
      simp [hu]
    · have hstep : m.showIn tolerance (u :: units) = .error .ratioTooLarge := by
        rw [showIn, quotient_eq_error u.factor_pos (Nat.le_of_not_lt hu)]
        rfl
      rw [hstep]
      simp [hu]

/-! ## Positive sizes -/

variable {n : Nat}

/-- A unit in which a positive size is at least one shows it rounded, if the error of rounding is within the
tolerance or the unit is the last. Else the size is shown in a smaller unit. -/
theorem showIn_cons {u : MemoryUnit} (hu : n < overflow * u.factor) (units : List MemoryUnit)
    {m : Nat} {e : Int} (h : ofRatio false n u.factor = .finite false m e) :
    (⟨n⟩ : MemorySize).showIn tolerance (u :: units) =
      if (Binary64.finite false m e).compareInt? 1 == some .lt then
        (⟨n⟩ : MemorySize).showIn tolerance units
      else
        let q := nearest m e
        quotient (q * u.factor - n : Int).natAbs n >>= fun error => tolerance.allows error >>= fun allowed =>
          if allowed || u = .byte then return (← writeInt q) ++ u.symbol
          else (⟨n⟩ : MemorySize).showIn tolerance units := by
  rw [showIn, quotient_natCast u.factor_pos hu, h]
  rfl

/-- A number of units that differs from a number of bytes no more than by rounding. -/
def Rounded (u : MemoryUnit) (n q : Nat) : Prop :=
  Near (u.factor * 2 ^ 53 + n) (q * u.factor * 2 ^ 53) (n * 2 ^ 53)

/-- No unit is larger than the largest one. -/
theorem factor_le (u : MemoryUnit) : u.factor ≤ MemoryUnit.tera.factor := by
  cases u <;> decide

/-- The error of rounding in a unit is small against the size. -/
theorem quotient_error {u : MemoryUnit} (hn : 0 < n) {q : Nat} (h : Rounded u n q) :
    quotient (q * u.factor - n : Int).natAbs n = .ok (ofRatio false (q * u.factor - n : Int).natAbs n) := by
  refine quotient_natCast hn ?_
  have hu := factor_le u
  have hlt : (q * u.factor - n : Int).natAbs ≤ MemoryUnit.tera.factor + n := by
    have herror := h.natAbs_mul_le
    rw [Int.natCast_mul] at herror
    omega
  calc (q * u.factor - n : Int).natAbs ≤ MemoryUnit.tera.factor + n := hlt
    _ ≤ MemoryUnit.tera.factor * n + n := Nat.add_le_add_right (Nat.le_mul_of_pos_right _ hn) n
    _ = (MemoryUnit.tera.factor + 1) * n := (Nat.add_one_mul ..).symm
    _ < overflow * n := Nat.mul_lt_mul_of_pos_right (by decide +kernel) hn

/-- What a unit that does not overflow shows can be written. -/
theorem isWritable_rounded {u : MemoryUnit} (hu : n < overflow * u.factor) {q : Nat}
    (h : Rounded u n q) : Text.isWritable q = true := by
  have hle : q ≤ 2 * n + u.factor := by
    have hq : q ≤ q * u.factor := Nat.le_mul_of_pos_right q u.factor_pos
    have := h.1
    omega
  have hn : n ≤ overflow * MemoryUnit.tera.factor :=
    Nat.le_of_lt (Nat.lt_of_lt_of_le hu (Nat.mul_le_mul_left _ (factor_le u)))
  refine Text.isWritable_of_le (k := 2 * (overflow * MemoryUnit.tera.factor) + MemoryUnit.tera.factor) ?_
    (by decide +kernel)
  have hu' := factor_le u
  omega

/-- A positive size that overflows in no unit has a text. -/
theorem exists_showIn (hn : 0 < n) (hw : Text.isWritable n = true)
    (ht : ∀ x, ∃ allowed, tolerance.allows x = .ok allowed) :
    ∀ units : List MemoryUnit, (∀ u ∈ units, n < overflow * u.factor) →
      ∃ s, (⟨n⟩ : MemorySize).showIn tolerance units = .ok s
  | [], _ => exists_exactText hw
  | u :: units, h => by
    have hu := h u List.mem_cons_self
    have hrest := exists_showIn hn hw ht units fun v hv => h v (List.mem_cons_of_mem u hv)
    obtain ⟨m, e, hfinite⟩ := exists_ofRatio false hn u.factor_pos hu
    have hround : Rounded u n (nearest m e) := near_nearest hn u.factor_pos hfinite
    obtain ⟨allowed, hallowed⟩ := ht (ofRatio false (nearest m e * u.factor - n : Int).natAbs n)
    rw [showIn_cons hu units hfinite]
    split
    · exact hrest
    · simp only [quotient_error hn hround, bind, Except.bind, hallowed,
        writeInt_eq_ok (isWritable_rounded hu hround)]
      split
      · exact ⟨_, rfl⟩
      · exact hrest

/-- A large size is shown in the first unit: rounding it is far below one part in ten. -/
theorem showIn_of_large (hlarge : 2 ^ 50 ≤ n) {u : MemoryUnit} (hu : n < overflow * u.factor)
    (units : List MemoryUnit) : ∃ q, 1 ≤ q ∧ 10 * distance q u.factor n ≤ n ∧ Text.isWritable q = true ∧
      (⟨n⟩ : MemorySize).showIn .standard (u :: units) = .ok (toString q ++ u.symbol) := by
  have hn : 0 < n := by omega
  have hfactor : u.factor ≤ 2 ^ 40 := factor_le u
  obtain ⟨m, e, hfinite⟩ := exists_ofRatio false hn u.factor_pos hu
  have hround : Rounded u n (nearest m e) := near_nearest hn u.factor_pos hfinite
  have hsize : 2 ≤ nearest m e := by
    refine Nat.le_of_not_lt fun hq => ?_
    have hmul := Nat.mul_le_mul_right u.factor (Nat.le_of_lt_succ hq)
    have hnear := hround.2
    omega
  have herror : 10 * distance (nearest m e) u.factor n ≤ n := by
    have hsmall := hround.natAbs_mul_le
    rw [Int.natCast_mul, ← distance] at hsmall
    omega
  have hwritable := isWritable_rounded hu hround
  refine ⟨nearest m e, by omega, herror, hwritable, ?_⟩
  have hle := le_tenth hn herror
  rw [distance] at hle
  rw [showIn_cons hu units hfinite]
  simp only [quotient_error hn hround, bind, Except.bind, Tolerance.standard, Tolerance.allows, hle,
    writeInt_eq_ok hwritable, beq_iff_eq, compareInt?_one_of_nearest hsize]
  rfl

/-- Below the overflow of a quotient by one there is none by a unit. -/
theorem lt_overflow_mul (h : n < overflow) (u : MemoryUnit) : n < overflow * u.factor :=
  Nat.lt_of_lt_of_le h (Nat.le_mul_of_pos_right _ u.factor_pos)

/-- A size that has a text does not overflow in the largest unit. -/
theorem lt_of_text (h : ∃ s, (⟨n⟩ : MemorySize).text tolerance = .ok s) :
    n < overflow * MemoryUnit.tera.factor := by
  obtain ⟨s, hs⟩ := h
  refine Nat.lt_of_not_le fun hover => ?_
  have hquot : quotient n MemoryUnit.tera.factor = .error .ratioTooLarge :=
    quotient_eq_error MemoryUnit.tera.factor_pos hover
  rw [text, MemoryUnit.descending, showIn, hquot] at hs
  cases hs

/-- A positive size has a text exactly when it does not overflow in the largest unit. -/
theorem exists_text_of_pos_iff (hn : 0 < n) (hw : Text.isWritable n = true) :
    (∃ s, (⟨n⟩ : MemorySize).text .standard = .ok s) ↔ n < overflow * MemoryUnit.tera.factor := by
  refine ⟨lt_of_text, fun hu => ?_⟩
  by_cases hlarge : 2 ^ 50 ≤ n
  · obtain ⟨q, -, -, -, htext⟩ := showIn_of_large hlarge hu [.giga, .mega, .kilo, .byte]
    exact ⟨_, htext⟩
  · have hsmall : n < overflow := Nat.lt_of_lt_of_le (Nat.lt_of_not_le hlarge) (by decide +kernel)
    exact exists_showIn hn hw (fun _ => ⟨_, rfl⟩) _ fun u _ => lt_overflow_mul hsmall u

/-- A size has a text exactly when its quotient by the largest unit does not overflow, and by the smallest
one either if the size is not positive. -/
theorem exists_text_iff {m : MemorySize} (hw : Text.isWritable m.bytes = true) :
    (∃ s, m.text .standard = .ok s) ↔
      -(overflow : Int) < m.bytes ∧ m.bytes < overflow * MemoryUnit.tera.factor := by
  obtain ⟨i⟩ := m
  rcases Int.lt_or_le 0 i with hi | hi
  · obtain ⟨n, rfl⟩ := Int.eq_ofNat_of_zero_le (Int.le_of_lt hi)
    rw [exists_text_of_pos_iff (Int.ofNat_lt.1 hi) hw]
    have hcast : ((overflow * MemoryUnit.tera.factor : Nat) : Int) = overflow * MemoryUnit.tera.factor :=
      Int.natCast_mul ..
    dsimp only
    omega
  · have hpos : (0 : Int) < overflow * MemoryUnit.tera.factor :=
      Int.natCast_mul .. ▸ Int.natCast_pos.2 (by decide +kernel)
    have hbytes : i.natAbs < overflow ↔ -(overflow : Int) < i ∧ i < overflow * MemoryUnit.tera.factor := by
      generalize (overflow : Int) * MemoryUnit.tera.factor = bound at *
      omega
    rw [text, exists_showIn_of_nonpos hi hw, ← hbytes]
    refine ⟨fun h => ?_, fun h u _ => lt_overflow_mul h u⟩
    have hbyte := h .byte (by decide)
    rwa [MemoryUnit.factor, Nat.mul_one] at hbyte

end

end ClusterPlan.MemorySize
