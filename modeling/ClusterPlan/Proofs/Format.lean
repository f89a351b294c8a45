import ClusterPlan.ConfigOption
import ClusterPlan.Proofs.Numeral
import ClusterPlan.Proofs.Conversion
import ClusterPlan.Proofs.DurationText
import ClusterPlan.Proofs.SizeGrammar

/-!
# Texts of values that read back

Each type of option has its own way to write a value: whole numbers in decimal, truth values in small
letters, sizes in megabytes or bytes, durations in the largest unit that divides them, lists with a
semicolon between the items. What is written reads back as the value (`ConfigOption.exists_format`), for all
values that come from plain ones: texts, truth values, whole numbers, positive sizes, durations that are not
negative (`ConfigOption.readable_of_convert`).
-/

namespace ClusterPlan

/-! ## Sizes -/

namespace ConfigOption

/-- The text of a positive size reads back. -/
theorem exists_formatMemory {m : MemorySize} (hm : 0 < m.bytes) (hw : Text.isWritable m.bytes = true) :
    ∃ s, formatMemory m = .ok s ∧ MemorySize.parse s = .ok m := by
  obtain ⟨bytes⟩ := m
  obtain ⟨n, rfl⟩ := Int.eq_ofNat_of_zero_le (Int.le_of_lt hm)
  have hn : n ≠ 0 := by
    rintro rfl
    exact absurd hm (by decide)
  unfold formatMemory
  split
  · next hmod =>
    replace hmod : (n : Int) % (MemoryUnit.mega.factor : Int) = 0 := hmod
    have hdvd : n / MemoryUnit.mega.factor * MemoryUnit.mega.factor = n :=
      Nat.div_mul_cancel (Nat.dvd_of_mod_eq_zero (by exact_mod_cast hmod))
    have hmega : (⟨n⟩ : MemorySize).megabytes = ((n / MemoryUnit.mega.factor : Nat) : Int) :=
      (Int.ofNat_fdiv ..).symm
    have hquot : n / MemoryUnit.mega.factor ≠ 0 := by
      intro h
      rw [h, Nat.zero_mul] at hdvd
      exact hn hdvd.symm
    have hwq : Text.isWritable ((n / MemoryUnit.mega.factor : Nat) : Int) = true :=
      Text.isWritable_of_le (Nat.div_le_self ..) hw
    refine ⟨toString (n / MemoryUnit.mega.factor) ++ "m", ?_, ?_⟩
    · rw [hmega, writeInt_eq_ok hwq]
      rfl
    · have hletter : ∀ c ∈ ['m'], Text.isLetter c = true := List.forall_mem_singleton.2 rfl
      have hname : String.ofList (['m'].map Char.toLower) ∈ MemoryUnit.mega.names := by decide
      refine (MemorySize.parse_written hquot hwq hletter hname).trans
        (congrArg (fun bytes => Except.ok (MemorySize.mk bytes)) ?_)
      exact_mod_cast hdvd
  · refine ⟨toString n ++ "b", ?_, ?_⟩
    · rw [MemorySize.exactText, writeInt_eq_ok hw]
      rfl
    · refine (MemorySize.parse_symbol (Nat.pos_of_ne_zero hn) hw .byte).trans
        (congrArg (fun bytes => Except.ok (MemorySize.mk bytes)) ?_)
      exact Int.mul_one _

end ConfigOption

/-! ## Lists -/

namespace Text

/-- The pieces between separators are those of the library. -/
theorem pieces_eq_splitOn (separator : Char) (cs : List Char) :
    pieces separator cs = cs.splitOn separator := by
  induction cs with
  | nil => rfl
  | cons c cs ih =>
    rw [List.splitOn_cons_eq_if_modifyHead, pieces, ih]
    by_cases h : c = separator
    · simp [h]
    · simp only [h, ↓reduceIte, beq_iff_eq]
      cases hs : cs.splitOn separator with
      | nil => exact absurd hs (List.splitOn_ne_nil _ _)
      | cons p ps => rfl

/-- A text without separators is one piece. -/
theorem pieces_eq_singleton {separator : Char} {cs : List Char} (h : separator ∉ cs) :
    pieces separator cs = [cs] := by
  induction cs with
  | nil => rfl
  | cons c cs ih =>
    rw [List.mem_cons, not_or] at h
    rw [pieces, if_neg (Ne.symm h.1), ih h.2]

/-- No piece has a separator. -/
theorem not_mem_of_mem_pieces {separator : Char} {cs : List Char} :
    ∀ p ∈ pieces separator cs, separator ∉ p := by
  induction cs with
  | nil => simp [pieces]
  | cons c cs ih =>
    intro p hp
    unfold pieces at hp
    split at hp
    · rcases List.mem_cons.1 hp with rfl | hp
      · simp
      · exact ih p hp
    · next hc =>
      split at hp
      · rw [List.mem_singleton.1 hp]
        simpa using Ne.symm hc
      · next q qs hq =>
        rcases List.mem_cons.1 hp with rfl | hp
        · have := ih q (hq ▸ List.mem_cons_self)
          simpa [this] using Ne.symm hc
        · exact ih p (hq ▸ List.mem_cons_of_mem _ hp)

end Text

namespace ConfigOption

/-- The texts that can be items of a list that is written as one text. -/
structure IsItem (s : String) : Prop where
  trimmed : Text.Trimmed s.toList
  nonempty : s.toList ≠ []
  separator : listSeparator ∉ s.toList

/-- What a text is split into are items. -/
theorem isItem_of_mem_splitList {t s : String} (h : s ∈ splitList t) : IsItem s := by
  obtain ⟨cs, hcs, rfl⟩ := List.mem_map.1 h
  obtain ⟨hm, hne⟩ := List.mem_filter.1 hcs
  obtain ⟨p, hp, rfl⟩ := List.mem_map.1 hm
  refine ⟨?_, ?_, ?_⟩ <;> rw [String.toList_ofList]
  · exact Text.trimmed_trim p
  · simpa using hne
  · exact fun h => Text.not_mem_of_mem_pieces p hp (Text.mem_of_mem_trim h)

/-- Items that are joined are split again. -/
theorem splitList_intercalate {ss : List String} (h : ∀ s ∈ ss, IsItem s) :
    splitList ((String.singleton listSeparator).intercalate ss) = ss := by
  by_cases hne : ss = []
  · subst hne
    decide
  have hpieces : Text.pieces listSeparator
      ((String.singleton listSeparator).intercalate ss).toList = ss.map String.toList := by
    rw [Text.pieces_eq_splitOn, String.toList_intercalate, String.toList_singleton]
    refine List.splitOn_intercalate _ ?_ (by simpa using hne)
    rw [List.forall_mem_map]
    exact fun s hs => (h s hs).separator
  have htrim : (ss.map String.toList).map Text.trim = ss.map String.toList := by
    rw [List.map_map]
    exact List.map_congr_left fun s hs => (h s hs).trimmed.trim_eq
  have hfilter : (ss.map String.toList).filter (fun p => !p.isEmpty) = ss.map String.toList := by
    rw [List.filter_eq_self, List.forall_mem_map]
    exact fun s hs => by simpa using (h s hs).nonempty
  rw [splitList, hpieces, htrim, hfilter, List.map_map]
  exact List.map_id'' (fun _ => String.ofList_toList) ss

end ConfigOption

/-! ## Options -/

namespace Value

/-- The plain values: texts, truth values, whole numbers, positive sizes and valid durations. -/
def Plain : Value → Prop
  | str _ | bool _ | int _ => True
  | memory m => 0 < m.bytes
  | duration d => d.Valid
  | _ => False

/-- The values that options make of plain ones. -/
def Readable : Value → Prop
  | list vs => ∃ ss : List String, vs = ss.map .str ∧ ∀ s ∈ ss, ConfigOption.IsItem s
  | v => v.Plain

end Value

namespace ConfigOption

variable {tolerance : Tolerance} {o : ConfigOption} {v w : Value}

/-- An option makes a readable value of a plain one. -/
theorem readable_of_convert (hv : v.Plain) (h : o.convert tolerance v = .ok w) : w.Readable := by
  cases converts_of_convert h with
  | string | integer | readInteger | boolean | readBoolean => trivial
  | memory | duration => exact hv
  | readMemory _ _ hm => exact MemorySize.pos_of_parse hm
  | readDuration _ _ hd => exact Duration.valid_of_parse hd
  | split => exact ⟨_, rfl, fun s => isItem_of_mem_splitList⟩
  | list | knot | tuple => exact hv.elim

/-- A truth value reads back from its text. -/
theorem readBool?_written (b : Bool) : readBool? (if b then "true" else "false") = some b := by
  cases b <;> decide +kernel

/-- A readable value of an option has a text, which the option turns into the value again. -/
theorem exists_format (ho : o.type.holds v = true) (hv : v.Readable) (hw : v.isWritable = true)
    (t u : Tolerance) : ∃ s, o.format t v = .ok s ∧ o.convert u (.str s) = .ok v := by
  obtain ⟨key, type, default, description⟩ := o
  cases type with
  | string => cases v with
    | str s => exact ⟨s, rfl, rfl⟩
    | _ => cases ho
  | integer => cases v with
    | int i =>
      rw [Value.isWritable] at hw
      refine ⟨toString i, ?_, ?_⟩
      · show writeInt i = _
        exact writeInt_eq_ok hw
      · simp only [convert, Value.text, bind, Except.bind, Text.readInt_toString hw]
    | _ => cases ho
  | boolean => cases v with
    | bool b =>
      refine ⟨if b then "true" else "false", rfl, ?_⟩
      simp only [convert, Value.text, bind, Except.bind, readBool?_written]
    | _ => cases ho
  | memory => cases v with
    | memory m =>
      rw [Value.isWritable] at hw
      obtain ⟨s, hs, hparse⟩ := exists_formatMemory hv hw
      refine ⟨s, hs, ?_⟩
      show (do return Value.memory (← MemorySize.parse s)) = _
      rw [hparse]
      rfl
    | _ => cases ho
  | duration => cases v with
    | duration d =>
      refine ⟨d.format, rfl, ?_⟩
      show (do return Value.duration (← Duration.parse d.format)) = _
      rw [Duration.parse_format hv]
      rfl
    | _ => cases ho
  | list => cases v with
    | list vs =>
      obtain ⟨ss, rfl, hss⟩ := hv
      refine ⟨(String.singleton listSeparator).intercalate ss, ?_, ?_⟩
      · show (do return (String.singleton listSeparator).intercalate (← List.mapM _ _)) = _
        rw [mapM_map_str fun _ => rfl]
        rfl
      · show Except.ok (Value.list ((splitList _).map .str)) = _
        rw [splitList_intercalate hss]
    | _ => cases ho

end ConfigOption

end ClusterPlan
