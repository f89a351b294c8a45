import ClusterPlan.ApplicationId
import ClusterPlan.Proofs.Trim
import Mathlib.Algebra.Group.Int.Defs

/-!
# Application IDs and their texts

A text is read as an ID exactly if it spells two runs of digits within the limit
(`ApplicationId.parse_eq_ok_iff`). An ID that has been read has a text, and the text reads back as the ID
(`ApplicationId.exists_text`). The text is not always the one that was read, which may have zeros in front of
its numbers, digits of other scripts and blanks around it, but it is the same for all of them
(`ApplicationId.canonical_text`).
-/

namespace ClusterPlan.ApplicationId

/-- Two runs of digits behind the leader, with an underscore between them, are found as such. -/
theorem split?_runs {timestamp sequence : List Char} (ht : ∀ c ∈ timestamp, Text.isDigit c = true)
    (hs : ∀ c ∈ sequence, Text.isDigit c = true) (ht' : timestamp ≠ []) (hs' : sequence ≠ []) :
    split? (leader ++ (timestamp ++ '_' :: sequence)) = some (timestamp, sequence) := by
  have hu (c : Char) (hc : ('_' :: sequence).head? = some c) : Text.isDigit c = false := by
    obtain rfl : '_' = c := Option.some.inj hc
    decide
  have htake := Text.takeWhile_run ht hu
  have hdrop := Text.dropWhile_run ht hu
  have hall : sequence.all Text.isDigit = true := List.all_eq_true.2 hs
  simp [split?, htake, hdrop, hall, ht', hs']

/-- The two runs of an ID are runs of digits of its text. -/
theorem runs_of_split? {cs timestamp sequence : List Char}
    (h : split? cs = some (timestamp, sequence)) :
    cs = leader ++ (timestamp ++ '_' :: sequence) ∧ timestamp ≠ [] ∧ sequence ≠ [] ∧
      (∀ c ∈ timestamp, Text.isDigit c = true) ∧ ∀ c ∈ sequence, Text.isDigit c = true := by
  simp only [split?] at h
  split at h
  · next hleader =>
    split at h
    · next tail htail =>
      split at h
      · cases h
      · next hcond =>
        simp only [Bool.or_eq_true, List.isEmpty_iff, Bool.not_eq_eq_eq_not, Bool.not_true, not_or,
          Bool.not_eq_false, List.all_eq_true] at hcond
        cases h
        refine ⟨?_, hcond.1.1, hcond.1.2, fun c hc => List.mem_takeWhile_imp hc, hcond.2⟩
        calc cs = cs.take leader.length ++ cs.drop leader.length := (List.take_append_drop ..).symm
          _ = leader ++ cs.drop leader.length := by rw [hleader]
          _ = _ := by rw [← htail, List.takeWhile_append_dropWhile]
    · cases h
  · cases h

/-! ## Reading -/

/-- Without the blanks around it the text is the leader and two runs of digits with an underscore between
them. -/
def Spells (timestamp sequence : List Char) (s : String) : Prop :=
  timestamp ≠ [] ∧ sequence ≠ [] ∧ (∀ c ∈ timestamp, Text.isDigit c = true) ∧
    (∀ c ∈ sequence, Text.isDigit c = true) ∧
    Text.trim s.toList = "application_".toList ++ (timestamp ++ '_' :: sequence)

/-- A text is read as an ID exactly if it spells one and neither run of digits is too long. -/
theorem parse_eq_ok_iff {s : String} {id : ApplicationId} : parse s = .ok id ↔
    ∃ timestamp sequence, Spells timestamp sequence s ∧ timestamp.length ≤ Text.digitLimit ∧
      sequence.length ≤ Text.digitLimit ∧ id = ⟨Text.ofDigits timestamp, Text.ofDigits sequence⟩ := by
  constructor
  · intro h
    unfold parse at h
    split at h
    · cases h
    · next timestamp sequence hsplit =>
      obtain ⟨hs, ht', hs', htd, hsd⟩ := runs_of_split? hsplit
      obtain ⟨n, hn, h⟩ := bind_eq_ok.1 h
      obtain ⟨k, hk, h⟩ := bind_eq_ok.1 h
      obtain ⟨htl, rfl⟩ := readDigits_eq_ok_iff.1 hn
      obtain ⟨hsl, rfl⟩ := readDigits_eq_ok_iff.1 hk
      cases h
      exact ⟨timestamp, sequence, ⟨ht', hs', htd, hsd, hs⟩, htl, hsl, rfl⟩
  · rintro ⟨timestamp, sequence, ⟨ht', hs', htd, hsd, hs⟩, htl, hsl, rfl⟩
    have hsplit : split? (Text.trim s.toList) = some (timestamp, sequence) := by
      rw [hs]
      exact split?_runs htd hsd ht' hs'
    rw [parse, hsplit]
    exact bind_eq_ok.2 ⟨_, readDigits_eq_ok_iff.2 ⟨htl, rfl⟩,
      bind_eq_ok.2 ⟨_, readDigits_eq_ok_iff.2 ⟨hsl, rfl⟩, rfl⟩⟩

/-- An ID that has been read is made of two numbers that can be written. -/
theorem exists_numbers {s : String} {id : ApplicationId} (h : parse s = .ok id) :
    ∃ timestamp sequence : Nat, Text.isWritable timestamp = true ∧ Text.isWritable sequence = true ∧
      id = ⟨timestamp, sequence⟩ := by
  obtain ⟨timestamp, sequence, -, ht, hs, rfl⟩ := parse_eq_ok_iff.1 h
  exact ⟨_, _, Text.isWritable_ofDigits ht, Text.isWritable_ofDigits hs, rfl⟩

/-! ## Writing -/

/-- The digits of a number with zeros in front. -/
def paddedDigits (width n : Nat) : List Char :=
  List.replicate (width - (Nat.toDigits 10 n).length) '0' ++ Nat.toDigits 10 n

theorem isDigit_of_mem_paddedDigits {width n : Nat} {c : Char} (h : c ∈ paddedDigits width n) :
    c.isDigit = true := by
  rcases List.mem_append.1 h with h | h
  · rw [List.eq_of_mem_replicate h]; rfl
  · exact Text.isDigit_toDigits n c h

/-- Zeros in front take a number past the limit only if the width does. -/
theorem readDigits_paddedDigits {width n : Nat} (hw : width ≤ Text.digitLimit)
    (h : Text.isWritable n = true) : readDigits (paddedDigits width n) = .ok n := by
  have hl := Text.length_toDigits_le h
  have : (paddedDigits width n).length ≤ Text.digitLimit := by
    rw [paddedDigits, List.length_append, List.length_replicate]; omega
  rw [readDigits, if_pos this, paddedDigits, Text.ofDigits_padding, Text.ofDigits_toDigits]

/-- The characters of a text of an ID. -/
def characters (timestamp sequence : Nat) : List Char :=
  leader ++ (Nat.toDigits 10 timestamp ++ '_' :: paddedDigits 4 sequence)

/-- The characters that the text of an ID can hold. -/
def alphabet : List Char :=
  leader ++ Text.digits

theorem mem_alphabet {timestamp sequence : Nat} {c : Char} (h : c ∈ characters timestamp sequence) :
    c ∈ alphabet := by
  have hdigit {c : Char} (h : c.isDigit = true) : c ∈ alphabet :=
    List.mem_append_right _ (Text.mem_digits_of_isDigit h)
  rw [characters, List.mem_append, List.mem_append, List.mem_cons] at h
  rcases h with h | h | rfl | h
  · exact List.mem_append_left _ h
  · exact hdigit (Text.isDigit_toDigits timestamp c h)
  · decide
  · exact hdigit (isDigit_of_mem_paddedDigits h)

/-- The text of an ID holds no blank. -/
theorem isBlank_of_mem_characters {timestamp sequence : Nat} {c : Char}
    (h : c ∈ characters timestamp sequence) : Text.isBlank c = false := by
  have halphabet : alphabet.all (fun c => !Text.isBlank c) = true := by decide
  simpa using List.all_eq_true.1 halphabet c (mem_alphabet h)

theorem trimmed_characters (timestamp sequence : Nat) :
    Text.Trimmed (characters timestamp sequence) :=
  .of_forall fun _ => isBlank_of_mem_characters

/-- The text of an ID of two numbers that can be written. -/
theorem text_eq_ok {timestamp sequence : Nat} (ht : Text.isWritable timestamp = true)
    (hs : Text.isWritable sequence = true) :
    text ⟨timestamp, sequence⟩ = .ok (.ofList (characters timestamp sequence)) := by
  have hseq : writePadded 4 sequence = .ok (.ofList (paddedDigits 4 sequence)) := by
    rw [writePadded, if_pos hs, if_neg (by omega), Int.natAbs_natCast, Text.padded, paddedDigits]
  rw [text, writeInt_eq_ok ht, hseq]
  refine congrArg Except.ok (String.toList_inj.1 ?_)
  have hleader : "application_".toList = leader := rfl
  simp [characters, hleader]

/-- The text of an ID of two numbers that can be written reads back. -/
theorem parse_characters {timestamp sequence : Nat} (ht : Text.isWritable timestamp = true)
    (hs : Text.isWritable sequence = true) :
    parse (.ofList (characters timestamp sequence)) = .ok ⟨timestamp, sequence⟩ := by
  have hspells : Spells (Nat.toDigits 10 timestamp) (paddedDigits 4 sequence)
      (.ofList (characters timestamp sequence)) := by
    refine ⟨Nat.toDigits_ne_nil, by simp [paddedDigits, Nat.toDigits_ne_nil],
      fun c hc => Text.isDigit_of_isDigit (Text.isDigit_toDigits timestamp c hc),
      fun _ hc => Text.isDigit_of_isDigit (isDigit_of_mem_paddedDigits hc), ?_⟩
    rw [String.toList_ofList, (trimmed_characters _ _).trim_eq]
    rfl
  have hwidth : 4 ≤ Text.digitLimit := by decide
  obtain ⟨hsl, hsequence⟩ := readDigits_eq_ok_iff.1 (readDigits_paddedDigits hwidth hs)
  refine parse_eq_ok_iff.2 ⟨_, _, hspells, Text.length_toDigits_le ht, hsl, ?_⟩
  rw [Text.ofDigits_toDigits, ← hsequence]

/-- An ID that has been read has a text, which reads back. -/
theorem exists_text {s : String} {id : ApplicationId} (h : parse s = .ok id) :
    ∃ t, id.text = .ok t ∧ parse t = .ok id := by
  obtain ⟨timestamp, sequence, ht, hs, rfl⟩ := exists_numbers h
  exact ⟨_, text_eq_ok ht hs, parse_characters ht hs⟩

/-- The text of an ID that has been read. -/
theorem exists_characters {s t : String} {id : ApplicationId} (h : parse s = .ok id)
    (ht : id.text = .ok t) : ∃ timestamp sequence : Nat, t = .ofList (characters timestamp sequence) := by
  obtain ⟨timestamp, sequence, htime, hseq, rfl⟩ := exists_numbers h
  exact ⟨timestamp, sequence, Except.ok.inj (ht.symm.trans (text_eq_ok htime hseq))⟩

/-- An ID of two numbers within the limit has a text, which reads back. -/
theorem exists_text_of_lt {id : ApplicationId} (ht : 0 ≤ id.timestamp)
    (ht' : id.timestamp < 10 ^ Text.digitLimit) (hs : 0 ≤ id.sequence)
    (hs' : id.sequence < 10 ^ Text.digitLimit) : ∃ t, id.text = .ok t ∧ parse t = .ok id := by
  obtain ⟨time, number⟩ := id
  obtain ⟨timestamp, rfl⟩ := Int.eq_ofNat_of_zero_le ht
  obtain ⟨sequence, rfl⟩ := Int.eq_ofNat_of_zero_le hs
  have hlt (n : Nat) (h : (n : Int) < 10 ^ Text.digitLimit) : Text.isWritable n = true := by
    rw [Text.isWritable_natCast_iff, ← Int.ofNat_lt, Int.natCast_pow]
    exact h
  exact ⟨_, text_eq_ok (hlt _ ht') (hlt _ hs'), parse_characters (hlt _ ht') (hlt _ hs')⟩

/-- IDs that have been read are known by their texts. -/
theorem text_eq_ok_iff {s t : String} {a b : ApplicationId} (ha : parse t = .ok a) (hat : a.text = .ok t)
    (hb : parse s = .ok b) : b.text = .ok t ↔ b = a := by
  constructor
  · intro h
    obtain ⟨t', ht', hparse⟩ := exists_text hb
    obtain rfl := Except.ok.inj (ht'.symm.trans h)
    exact Except.ok.inj (hparse.symm.trans ha)
  · rintro rfl
    exact hat

/-- **Application IDs and their texts.** An ID within the limits has a text, which reads back. A text is read
exactly if it spells two runs of digits within the limits, and of all texts that are read as one ID, the text
of the ID is the same, and it is that of no other ID. -/
theorem canonical_text :
    (∀ a : ApplicationId, 0 ≤ a.timestamp → a.timestamp < 10 ^ Text.digitLimit → 0 ≤ a.sequence →
      a.sequence < 10 ^ Text.digitLimit → ∃ t, a.text = .ok t ∧ parse t = .ok a) ∧
    (∀ s a, parse s = .ok a → ∃ t, a.text = .ok t ∧ parse t = .ok a ∧
      ∀ s' b, parse s' = .ok b → (b.text = .ok t ↔ b = a)) ∧
    (∀ s a, parse s = .ok a ↔ ∃ timestamp sequence, Spells timestamp sequence s ∧
      timestamp.length ≤ Text.digitLimit ∧ sequence.length ≤ Text.digitLimit ∧
      a = ⟨Text.ofDigits timestamp, Text.ofDigits sequence⟩) := by
  refine ⟨fun a ht ht' hs hs' => exists_text_of_lt ht ht' hs hs', fun s a ha => ?_, fun s a => parse_eq_ok_iff⟩
  obtain ⟨t, hat, hparse⟩ := exists_text ha
  exact ⟨t, hat, hparse, fun s' b hb => text_eq_ok_iff hparse hat hb⟩

/-- An ID with more than four digits in its number, and one that is read from digits of another script with
zeros in front. -/
theorem canonical_text_of_script :
    (∃ t, (⟨1700000000000, 12345⟩ : ApplicationId).text = .ok t ∧ parse t = .ok ⟨1700000000000, 12345⟩) ∧
    parse " application_0\u0661\u0667_000\u0663\n" = .ok ⟨17, 3⟩ ∧
    (⟨17, 3⟩ : ApplicationId).text = .ok "application_17_0003" ∧
    parse "application_17_0003" = .ok ⟨17, 3⟩ ∧
    ∀ s b, parse s = .ok b → (b.text = .ok "application_17_0003" ↔ b = ⟨17, 3⟩) := by
  have ⟨hwritten, hcanonical, hread⟩ := canonical_text
  have hspells : Spells "0\u0661\u0667".toList "000\u0663".toList
      " application_0\u0661\u0667_000\u0663\n" :=
    ⟨by decide, by decide, List.all_eq_true.1 (by decide +kernel), List.all_eq_true.1 (by decide +kernel),
      by decide +kernel⟩
  have hparse := (hread _ ⟨17, 3⟩).2 ⟨_, _, hspells, by decide, by decide, by decide +kernel⟩
  have htext : (⟨17, 3⟩ : ApplicationId).text = .ok "application_17_0003" := by decide +kernel
  obtain ⟨t, ht, hback, hother⟩ := hcanonical _ _ hparse
  obtain rfl := Except.ok.inj (ht.symm.trans htext)
  exact ⟨hwritten ⟨1700000000000, 12345⟩ (by decide) (by decide +kernel) (by decide) (by decide +kernel),
    hparse, htext, hback, hother⟩

end ClusterPlan.ApplicationId
