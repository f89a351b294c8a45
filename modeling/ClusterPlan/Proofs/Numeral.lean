import ClusterPlan.Text.Numeral
import ClusterPlan.Proofs.Trim
import Mathlib.Data.List.TakeWhile

/-!
# Reading numerals that were written

The decimal text of a whole number reads back as the number (`readInt_toString`).
-/

namespace ClusterPlan.Text

/-- A run of ASCII digits has no underscores to leave out. -/
theorem groupedDigits?_digits : ∀ {ds : List Char}, (∀ c ∈ ds, c.isDigit = true) → ds ≠ [] →
    groupedDigits? ds = some ds
  | [], _, h => (h rfl).elim
  | [c], hd, _ => by simp [groupedDigits?, isDigit_of_isDigit (hd c (by simp))]
  | c :: d :: cs, hd, _ => by
    have hc := isDigit_of_isDigit (hd c (by simp))
    have hne : d ≠ '_' := by
      rintro rfl
      exact absurd (hd '_' (by simp)) (by decide)
    have ih := @groupedDigits?_digits (d :: cs) (fun c hc => hd c (by simp [hc])) (by simp)
    rw [groupedDigits?, if_pos hc, ih]
    · rfl
    · exact fun _ _ heq => (hne heq).elim

/-- Digits behind a sign, or without one, are read as the number that they denote. -/
theorem readInt_of_splitSign {cs ds : List Char} {negative : Bool}
    (hstart : ∀ c, cs.head? = some c → isNumeralBlank c = false) (hs : splitSign cs = (negative, ds))
    (hd : ∀ c ∈ ds, c.isDigit = true) (hne : ds ≠ []) (hl : ds.length ≤ digitLimit) :
    readInt cs = .number (if negative then -(ofDigits ds : Int) else ofDigits ds) := by
  have hcs : cs.dropWhile isNumeralBlank = cs := @dropWhile_run isNumeralBlank [] cs nofun hstart
  have hpart (c : Char) (hc : c ∈ ds) : (isDigit c || c == '_') = true := by
    rw [isDigit_of_isDigit (hd c hc), Bool.true_or]
  have hall : ds.takeWhile (fun c => isDigit c || c == '_') = ds := List.takeWhile_eq_self_iff.2 hpart
  have hnone : ds.dropWhile (fun c => isDigit c || c == '_') = [] := List.dropWhile_eq_nil_iff.2 hpart
  simp only [readInt, hcs, hs, hall, hnone, groupedDigits?_digits hd hne]
  rw [if_neg (by omega)]
  rfl

/-- Digits have no sign in front. -/
theorem splitSign_digits {ds : List Char} (hd : ∀ c ∈ ds, c.isDigit = true) :
    splitSign ds = (false, ds) := by
  unfold splitSign
  split
  · exact absurd (hd '-' (by simp)) (by decide)
  · exact absurd (hd '+' (by simp)) (by decide)
  · rfl

theorem isNumeralBlank_of_isBlank {c : Char} (h : isBlank c = false) : isNumeralBlank c = false := by
  rw [isNumeralBlank, h, Bool.false_and]

/-- A whole number that can be written reads back from its text. -/
theorem readInt_toString {i : Int} (h : isWritable i = true) :
    readInt (trim (toString i).toList) = .number i := by
  cases i with
  | ofNat n =>
    have hchars : (toString (Int.ofNat n)).toList = Nat.toDigits 10 n := Nat.toList_repr
    have hdigit := isDigit_toDigits n
    have htrim : Trimmed (Nat.toDigits 10 n) := .of_forall fun c hc => isBlank_of_isDigit (hdigit c hc)
    have hstart (c : Char) (hc : (Nat.toDigits 10 n).head? = some c) : isNumeralBlank c = false :=
      isNumeralBlank_of_isBlank (htrim.head c hc)
    rw [hchars, htrim.trim_eq, readInt_of_splitSign hstart (splitSign_digits hdigit) hdigit
      Nat.toDigits_ne_nil (length_toDigits_le h), ofDigits_toDigits]
    rfl
  | negSucc n =>
    have hchars : (toString (Int.negSucc n)).toList = '-' :: Nat.toDigits 10 (n + 1) := by
      rw [Int.toString_eq_repr, Int.repr, String.toList_append, Nat.toList_repr]
      rfl
    have hdigit := isDigit_toDigits (n + 1)
    have htrim : Trimmed ('-' :: Nat.toDigits 10 (n + 1)) :=
      .of_forall fun c hc => by
        rcases List.mem_cons.1 hc with rfl | hc
        · decide
        · exact isBlank_of_isDigit (hdigit c hc)
    have hstart (c : Char) (hc : ('-' :: Nat.toDigits 10 (n + 1)).head? = some c) :
        isNumeralBlank c = false := isNumeralBlank_of_isBlank (htrim.head c hc)
    have hw : isWritable ((n + 1 : Nat) : Int) = true := h
    rw [hchars, htrim.trim_eq, readInt_of_splitSign hstart rfl hdigit Nat.toDigits_ne_nil
      (length_toDigits_le hw), ofDigits_toDigits]
    rfl

end ClusterPlan.Text
