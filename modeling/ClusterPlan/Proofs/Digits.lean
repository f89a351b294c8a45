import ClusterPlan.Failure
import Mathlib.Algebra.Group.Nat.Defs
import Mathlib.Data.List.Induction

/-!
# Digits of a number

A number within the digit limit is written as a run of decimal digits that denotes it again
(`ofDigits_toDigits`), also with zeros in front (`ofDigits_padding`), and a run within the limit denotes a
number that can be written (`isWritable_ofDigits`). So what `readDigits` reads can be written, and it reads
what was written (`readDigits_toDigits`).
-/

namespace ClusterPlan

namespace Text

/-- An ASCII digit has its usual value. -/
theorem digit?_of_isDigit {c : Char} (h : c.isDigit = true) : digit? c = some (c.toNat - 48) := by
  have hc : 48 ≤ c.toNat ∧ c.toNat < 48 + 10 := by
    simp only [Char.isDigit, Bool.and_eq_true, decide_eq_true_eq, UInt32.le_iff_toNat_le] at h
    exact ⟨h.1, Nat.lt_succ_of_le h.2⟩
  have hf : zeros.find? (fun z => z ≤ c.toNat && c.toNat < z + 10) = some 48 :=
    List.find?_cons_of_pos (by simpa using hc)
  rw [digit?, hf]; rfl

theorem isDigit_of_isDigit {c : Char} (h : c.isDigit = true) : isDigit c = true := by
  rw [isDigit, digit?_of_isDigit h]; rfl

/-- The ASCII digits. -/
def digits : List Char := "0123456789".toList

theorem mem_digits_of_isDigit {c : Char} (h : c.isDigit = true) : c ∈ digits := by
  have hc : 48 ≤ c.toNat ∧ c.toNat ≤ 57 := by
    simp only [Char.isDigit, Bool.and_eq_true, decide_eq_true_eq, UInt32.le_iff_toNat_le] at h
    exact h
  have hn : c.toNat = 48 ∨ c.toNat = 49 ∨ c.toNat = 50 ∨ c.toNat = 51 ∨ c.toNat = 52 ∨ c.toNat = 53 ∨
      c.toNat = 54 ∨ c.toNat = 55 ∨ c.toNat = 56 ∨ c.toNat = 57 := by
    omega
  rw [← c.ofNat_toNat]
  rcases hn with h | h | h | h | h | h | h | h | h | h <;> rw [h] <;> decide

/-- The digits of a number are ASCII digits. -/
theorem isDigit_toDigits (n : Nat) : ∀ c ∈ Nat.toDigits 10 n, c.isDigit = true :=
  fun _ => Nat.isDigit_of_mem_toDigits (by decide) (by decide)

/-- A natural number is written with its digits also where it counts as an integer. -/
@[simp] theorem toList_repr_natCast (n : Nat) : (n : Int).repr.toList = Nat.toDigits 10 n :=
  Nat.toList_repr

theorem ofDigits_append_singleton (ds : List Char) (c : Char) :
    ofDigits (ds ++ [c]) = 10 * ofDigits ds + (digit? c).getD 0 := by
  simp [ofDigits]

/-- A run of digits denotes a number of at most as many digits. -/
theorem ofDigits_lt (ds : List Char) : ofDigits ds < 10 ^ ds.length := by
  induction ds using List.reverseRecOn with
  | nil => simp [ofDigits]
  | append_singleton ds c ih =>
    have hc : (digit? c).getD 0 < 10 := by
      cases h : digit? c with
      | none => simp
      | some d => simpa using digit?_lt h
    rw [ofDigits_append_singleton, List.length_append, List.length_singleton, Nat.pow_succ]
    omega

/-- A run of ASCII digits denotes its usual number. -/
theorem ofDigits_eq_ofDigitChars {ds : List Char} (h : ∀ c ∈ ds, c.isDigit = true) :
    ofDigits ds = Nat.ofDigitChars 10 ds 0 := by
  induction ds using List.reverseRecOn with
  | nil => rfl
  | append_singleton ds c ih =>
    have hc := digit?_of_isDigit (h c (by simp))
    rw [ofDigits_append_singleton, ih fun c hc => h c (by simp [hc]), Nat.ofDigitChars_append, hc]
    rfl

/-- The digits of a number denote it. -/
theorem ofDigits_toDigits (n : Nat) : ofDigits (Nat.toDigits 10 n) = n := by
  rw [ofDigits_eq_ofDigitChars (isDigit_toDigits n), Nat.ofDigitChars_ten_toDigits]

/-- Zeros in front do not change the number that a run of digits denotes. -/
theorem ofDigits_padding (k : Nat) (ds : List Char) :
    ofDigits (List.replicate k '0' ++ ds) = ofDigits ds := by
  have hz : (digit? '0').getD 0 = 0 := by decide
  induction k with
  | zero => rfl
  | succ k ih =>
    rw [List.replicate_succ, List.cons_append, ← ih, ofDigits, List.foldl_cons, hz]; rfl

theorem isWritable_natCast_iff (n : Nat) : isWritable n = true ↔ n < 10 ^ digitLimit := by
  rw [isWritable, Int.natAbs_natCast, Nat.pow_eq, decide_eq_true_iff]

/-- A number below a power of ten within the limit can be written. -/
theorem isWritable_of_lt_pow {n k : Nat} (h : n < 10 ^ k) (hk : k ≤ digitLimit) : isWritable n = true := by
  rw [isWritable_natCast_iff]
  exact Nat.lt_of_lt_of_le h (Nat.pow_le_pow_right (by decide) hk)

/-- A run of digits within the limit denotes a number that can be written. -/
theorem isWritable_ofDigits {ds : List Char} (h : ds.length ≤ digitLimit) :
    isWritable (ofDigits ds) = true :=
  isWritable_of_lt_pow (ofDigits_lt ds) h

/-- A smaller number can be written too. -/
theorem isWritable_of_le {n k : Nat} (h : n ≤ k) (hk : isWritable k = true) : isWritable n = true := by
  rw [isWritable_natCast_iff] at hk ⊢
  exact Nat.lt_of_le_of_lt h hk

/-- A number that can be written has no more digits than the limit allows. -/
theorem length_toDigits_le {n : Nat} (h : isWritable n = true) :
    (Nat.toDigits 10 n).length ≤ digitLimit := by
  rw [isWritable_natCast_iff] at h
  exact (Nat.length_toDigits_le_iff (by decide) (by decide)).2 h

end Text

/-- A run of digits within the limit is read as the number that it denotes. -/
theorem readDigits_eq_ok_iff {ds : List Char} {n : Nat} :
    readDigits ds = .ok n ↔ ds.length ≤ Text.digitLimit ∧ n = Text.ofDigits ds := by
  unfold readDigits
  split
  · next hl => rw [Except.ok.injEq, eq_comm, and_iff_right hl]
  · next hl => exact ⟨nofun, fun h => absurd h.1 hl⟩

/-- What is read can be written. -/
theorem isWritable_of_readDigits {ds : List Char} {n : Nat} (h : readDigits ds = .ok n) :
    Text.isWritable n = true := by
  obtain ⟨hl, rfl⟩ := readDigits_eq_ok_iff.1 h
  exact Text.isWritable_ofDigits hl

/-- What is written can be read. -/
theorem readDigits_toDigits {n : Nat} (h : Text.isWritable n = true) :
    readDigits (Nat.toDigits 10 n) = .ok n := by
  rw [readDigits, if_pos (Text.length_toDigits_le h), Text.ofDigits_toDigits]

theorem writeInt_eq_ok {i : Int} (h : Text.isWritable i = true) : writeInt i = .ok (toString i) :=
  if_pos h

end ClusterPlan
