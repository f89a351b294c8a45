import ClusterPlan.Proofs.SessionGrammar

/-!
# Written session properties files

A record is written as an assignment for the application ID, one for the address of the job manager if there
is one, and one for the dynamic properties if there are any, joined by the separator (`assignmentsOf`). With
these lines in any order, and with blank lines and comments anywhere between them, the file reads back as the
record (`SessionRecord.parse_of_written`). What the texts have to be like so that no separator is found where
none was written is said by `IsHost` and `IsDynamicProperty`.
-/

namespace ClusterPlan.SessionRecord

/-! ## Assignments that are written -/

/-- An assignment as it is written. -/
def assignmentText (e : String × String) : List Char :=
  e.1.toList ++ '=' :: e.2.toList

/-- The key and the value of an assignment are found again in its text. -/
structure IsPlain (e : String × String) : Prop where
  nonempty : e.1 ≠ ""
  key : Text.Trimmed e.1.toList
  equals : '=' ∉ e.1.toList
  value : Text.Trimmed e.2.toList

/-- A plain assignment that is written is read as it was. -/
theorem splitAtEquals_assignmentText {e : String × String} (h : IsPlain e) :
    Text.splitAtEquals (assignmentText e) = e := by
  rw [assignmentText, Text.splitAtEquals_append h.equals, h.key.trim_eq, h.value.trim_eq,
    String.ofList_toList, String.ofList_toList]

/-- So are several of them. -/
theorem map_splitAtEquals {es : List (String × String)} (h : ∀ e ∈ es, IsPlain e) :
    (es.map assignmentText).map Text.splitAtEquals = es := by
  rw [List.map_map]
  exact (List.map_congr_left fun e he => splitAtEquals_assignmentText (h e he)).trans (List.map_id es)

/-- A key that is not empty and has no blank in front is not blank. -/
theorem IsPlain.not_blank {e : String × String} (h : IsPlain e) : ¬ Text.Blank e.1.toList := by
  intro hblank
  cases hkey : e.1.toList with
  | nil => exact h.nonempty (String.toList_eq_nil_iff.1 hkey)
  | cons c cs =>
    have hc := h.key.head c (by rw [hkey]; rfl)
    rw [hblank c (by rw [hkey]; exact List.mem_cons_self)] at hc
    cases hc

/-- What is written is an assignment, since the key is not empty. -/
theorem isAssignment_assignmentText {e : String × String} (h : IsPlain e) :
    Text.IsAssignment (assignmentText e) :=
  ⟨_, _, h.equals, h.not_blank, rfl⟩

/-- Among lines of assignments with distinct keys, in any order, each one is the last one of its key. -/
theorem lastValue?_of_perm {es fs : List (String × String)} (hnodup : (fs.map Prod.fst).Nodup)
    (h : es.Perm fs) (key : String) : lastValue? key es = Ordered.lookup key fs := by
  have hes : (es.map Prod.fst).Nodup := ((h.map Prod.fst).nodup_iff).2 hnodup
  rw [lastValue?, Ordered.lookup_reverse key hes]
  refine Option.ext fun v => ?_
  rw [Ordered.lookup_eq_some_iff hes, Ordered.lookup_eq_some_iff hnodup, h.mem_iff]

/-- Lines of assignments with distinct keys, in any order and with blank lines and comments anywhere between
them, assign to each key what its line says. -/
theorem lastAssigned?_written {es : List (String × String)} (hnodup : (es.map Prod.fst).Nodup)
    (hplain : ∀ e ∈ es, IsPlain e) (hbreak : ∀ e ∈ es, Text.BreakFree (assignmentText e))
    {lineEnd : List Char} (hend : Text.IsLineEnd lineEnd) {ls : List (List Char)}
    (hignored : ∀ l ∈ ls, isIgnored l = true → Text.BreakFree l)
    (hperm : (ls.filter fun l => !isIgnored l).Perm (es.map assignmentText)) (key : String) :
    lastAssigned? key (.ofList (lineEnd.intercalate ls)) = Ordered.lookup key es := by
  have hfree : ∀ l ∈ ls, Text.BreakFree l := by
    intro l hl
    cases hi : isIgnored l with
    | true => exact hignored l hl hi
    | false =>
      have hm := hperm.mem_iff.1 (List.mem_filter.2 ⟨hl, by rw [hi]; rfl⟩)
      obtain ⟨e, he, rfl⟩ := List.mem_map.1 hm
      exact hbreak e he
  rw [lastAssigned?, filterMap_assigned?, String.toList_ofList,
    Text.filter_lines_intercalate rfl hend hfree]
  refine lastValue?_of_perm hnodup ?_ key
  have := hperm.map Text.splitAtEquals
  rwa [map_splitAtEquals hplain] at this

/-! ## Addresses -/

/-- A host that can be written: a text without line breaks that does not start with a blank. -/
structure IsHost (host : String) : Prop where
  nonempty : host ≠ ""
  head : ∀ c, host.toList.head? = some c → Text.isBlank c = false
  breaks : Text.BreakFree host.toList

/-- An address as it is written. -/
def addressText (address : String × Int) : String :=
  address.1 ++ ":" ++ toString address.2

/-- The characters of an address. -/
theorem toList_addressText (host : String) (port : Nat) :
    (addressText (host, port)).toList = host.toList ++ ':' :: Nat.toDigits 10 port := by
  have hport : (toString (port : Int)).toList = Nat.toDigits 10 port := Nat.toList_repr
  have hcolon : ":".toList = [':'] := rfl
  rw [addressText, String.toList_append, String.toList_append, hport, hcolon, List.append_assoc]
  rfl

/-- An address has no blanks at its ends. -/
theorem trimmed_addressText {host : String} (h : IsHost host) (port : Nat) :
    Text.Trimmed (addressText (host, port)).toList where
  head c hc := by
    rw [toList_addressText, List.head?_append_of_ne_nil] at hc
    · exact h.head c hc
    · exact fun e => h.nonempty (String.toList_eq_nil_iff.1 e)
  last c hc := by
    rw [toList_addressText, List.getLast?_append, List.getLast?_cons,
      List.getLast?_eq_some_getLast Nat.toDigits_ne_nil] at hc
    obtain rfl : _ = c := Option.some.inj hc
    exact Text.isBlank_getLast?_toDigits (List.getLast?_eq_some_getLast Nat.toDigits_ne_nil)

/-- It has no line break in it. -/
theorem breakFree_addressText {host : String} (h : IsHost host) (port : Nat) :
    Text.BreakFree (addressText (host, port)).toList := by
  rw [toList_addressText]
  refine h.breaks.append (.cons (by decide) (.of_not_isBlank fun c hc => ?_))
  exact Text.isBlank_of_isDigit (Text.isDigit_toDigits port c hc)

/-- An address that was written reads back. -/
theorem parseAddress_addressText {host : String} (h : IsHost host) {port : Nat}
    (hp : Text.isWritable port = true) (source : String) :
    parseAddress source (addressText (host, port)) = .ok (host, (port : Int)) := by
  have hdigits : ∀ c ∈ Nat.toDigits 10 port, Text.isDigit c = true :=
    fun c hc => Text.isDigit_of_isDigit (Text.isDigit_toDigits port c hc)
  have hhost : host.toList.isEmpty = false :=
    List.isEmpty_eq_false_iff.2 fun e => h.nonempty (String.toList_eq_nil_iff.1 e)
  have hport : (Nat.toDigits 10 port).isEmpty = false := List.isEmpty_eq_false_iff.2 Nat.toDigits_ne_nil
  have hall : (Nat.toDigits 10 port).all Text.isDigit = true := List.all_eq_true.2 hdigits
  rw [parseAddress, (trimmed_addressText h port).trim_eq, toList_addressText,
    cutAtLastColon_append (not_colon_of_isDigit hdigits)]
  simp only [hhost, hport, hall, readDigits_toDigits hp, String.ofList_toList]
  rfl

/-! ## Dynamic properties -/

/-- A dynamic property that can be written: besides what any assignment needs there is no separator in it and
no line break, and the value does not end with half of a separator. -/
structure IsDynamicProperty (e : String × String) : Prop extends IsPlain e where
  keySeparator : ¬ "@@".toList <:+: e.1.toList
  keyBreaks : Text.BreakFree e.1.toList
  valueSeparator : ¬ "@@".toList <:+: e.2.toList
  valueBreaks : Text.BreakFree e.2.toList
  valueLast : e.2.toList.getLast? ≠ some '@'

/-- Dynamic properties as they are written, if there are any. -/
def dynamicText? (dynamic : Ordered String) : Option String :=
  if dynamic.entries = [] then none
  else some (.ofList ("@@".toList.intercalate (dynamic.entries.map assignmentText)))

/-- An assignment ends as its value does. -/
theorem getLast?_assignmentText (e : String × String) :
    (assignmentText e).getLast? = some (e.2.toList.getLast?.getD '=') := by
  rw [assignmentText, List.getLast?_append, List.getLast?_cons]
  rfl

/-- A plain assignment has no blanks at its ends. -/
theorem trimmed_assignmentText {e : String × String} (h : IsPlain e) : Text.Trimmed (assignmentText e) where
  head c hc := by
    rw [assignmentText, List.head?_append_of_ne_nil] at hc
    · exact h.key.head c hc
    · exact fun hnil => h.nonempty (String.toList_eq_nil_iff.1 hnil)
  last c hc := by
    rw [getLast?_assignmentText] at hc
    obtain rfl := Option.some.inj hc
    cases hlast : e.2.toList.getLast? with
    | none => decide
    | some c => exact h.value.last c hlast

section
variable {dynamic : Ordered String} (h : ∀ e ∈ dynamic.entries, IsDynamicProperty e)
include h

/-- Dynamic properties that were written are the pieces of their text. -/
theorem cut_dynamicText (hne : dynamic.entries ≠ []) :
    Text.Cut "@@".toList ("@@".toList.intercalate (dynamic.entries.map assignmentText))
      (dynamic.entries.map assignmentText) := by
  refine Text.cut_intercalate (by simpa using hne) (List.forall_mem_map.2 fun e he => ⟨?_, ?_⟩)
  · exact Text.not_infix_join (by decide) (h e he).keySeparator (h e he).valueSeparator
  · rw [getLast?_assignmentText]
    have hlast := (h e he).valueLast
    cases hvalue : e.2.toList.getLast? with
    | none => decide
    | some c => rwa [hvalue] at hlast

/-- The text of dynamic properties has no blank at its ends and no line break. -/
theorem trimmed_breakFree_of_dynamicText? {text : String} (ht : dynamicText? dynamic = some text) :
    Text.Trimmed text.toList ∧ Text.BreakFree text.toList := by
  unfold dynamicText? at ht
  split at ht
  · cases ht
  · next hne =>
    obtain rfl := Option.some.inj ht
    rw [String.toList_ofList]
    constructor
    · refine (Text.trimmed_intercalate (by simpa using hne) (List.forall_mem_map.2 fun e he => ⟨?_, ?_⟩)).2
      · exact List.append_ne_nil_of_right_ne_nil _ (List.cons_ne_nil _ _)
      · exact trimmed_assignmentText (h e he).toIsPlain
    · refine .intercalate (.of_any (by decide)) (List.forall_mem_map.2 fun e he => ?_)
      exact (h e he).keyBreaks.append (.cons (by decide) (h e he).valueBreaks)

/-- Written properties are not blank, and each of them is an assignment again. -/
theorem pieceAssignments_dynamic :
    pieceAssignments (dynamic.entries.map assignmentText) = dynamic.entries := by
  have hfilter : (dynamic.entries.map assignmentText).filter (fun p => !p.all Text.isBlank) =
      dynamic.entries.map assignmentText := by
    refine List.filter_eq_self.2 fun p hp => ?_
    obtain ⟨e, he, rfl⟩ := List.mem_map.1 hp
    have hnot : ¬ Text.Blank (assignmentText e) := fun hblank =>
      (h e he).not_blank fun c hc => hblank c (List.mem_append_left _ hc)
    simpa [Text.Blank] using hnot
  rw [pieceAssignments, hfilter, map_splitAtEquals fun e he => (h e he).toIsPlain]

/-- The pieces of the text of dynamic properties are these properties. -/
theorem exists_cut_dynamicText? : ∃ ps, Text.Cut "@@".toList ((dynamicText? dynamic).getD "").toList ps ∧
    AllAssignments ps ∧ dynamic = .ofList (pieceAssignments ps) := by
  unfold dynamicText?
  split
  · next hempty =>
    refine ⟨[[]], .last (by decide), fun p hp hblank => ?_, ?_⟩
    · rw [List.mem_singleton.1 hp] at hblank
      exact absurd .nil hblank
    · rw [← Ordered.ofList_entries dynamic, hempty]
      rfl
  · next hne =>
    refine ⟨dynamic.entries.map assignmentText, ?_, fun p hp _ => ?_, ?_⟩
    · have htext : (String.ofList ("@@".toList.intercalate
          (dynamic.entries.map assignmentText))).toList = _ := String.toList_ofList
      rw [Option.getD_some, htext]
      exact cut_dynamicText h hne
    · obtain ⟨e, he, rfl⟩ := List.mem_map.1 hp
      exact isAssignment_assignmentText (h e he).toIsPlain
    · rw [pieceAssignments_dynamic h, Ordered.ofList_entries]

end

/-! ## Records -/

/-- The assignments of a properties file, given the texts of their values. -/
def assignmentsOf (id : String) (address? dynamic? : Option String) : List (String × String) :=
  ("applicationID", id) :: (address?.toList.map (("jobManager", ·)) ++
    dynamic?.toList.map (("dynamicPropertiesString", ·)))

section
variable {id : String} {address? dynamic? : Option String}

/-- The three keys are different. -/
theorem nodup_assignmentsOf : ((assignmentsOf id address? dynamic?).map Prod.fst).Nodup := by
  cases address? <;> cases dynamic? <;> simp [assignmentsOf]

/-- Each of them has its own value. -/
theorem lookup_assignmentsOf :
    Ordered.lookup "applicationID" (assignmentsOf id address? dynamic?) = some id ∧
    Ordered.lookup "jobManager" (assignmentsOf id address? dynamic?) = address? ∧
    Ordered.lookup "dynamicPropertiesString" (assignmentsOf id address? dynamic?) = dynamic? := by
  cases address? <;> cases dynamic? <;> simp [assignmentsOf, Ordered.lookup]

/-- What holds of the three keys with their values holds of all assignments. -/
theorem forall_assignmentsOf {p : String × String → Prop} (hid : p ("applicationID", id))
    (haddress : ∀ s, address? = some s → p ("jobManager", s))
    (hdynamic : ∀ s, dynamic? = some s → p ("dynamicPropertiesString", s)) :
    ∀ e ∈ assignmentsOf id address? dynamic?, p e := by
  intro e he
  simp only [assignmentsOf, List.mem_cons, List.mem_append, List.mem_map, Option.mem_toList] at he
  rcases he with rfl | ⟨s, hs, rfl⟩ | ⟨s, hs, rfl⟩
  · exact hid
  · exact haddress s hs
  · exact hdynamic s hs

end

/-- Under the three keys a trimmed value without line breaks makes a line that is a plain assignment. -/
theorem plain_line {key value : String}
    (hkey : key ∈ ["applicationID", "jobManager", "dynamicPropertiesString"])
    (hv : Text.Trimmed value.toList ∧ Text.BreakFree value.toList) :
    IsPlain (key, value) ∧ Text.BreakFree (assignmentText (key, value)) := by
  obtain ⟨hne, htrim, hequals, hbreaks⟩ : key ≠ "" ∧ Text.trim key.toList = key.toList ∧
      '=' ∉ key.toList ∧ key.toList.any Text.isLineBreak = false := by
    revert key
    decide
  exact ⟨⟨hne, .of_trim_eq htrim, hequals, hv.1⟩, (Text.BreakFree.of_any hbreaks).append
    (.cons (by decide) hv.2)⟩

/-- **Written files read back.** The text of an application ID whose numbers are not negative, an address and
dynamic properties that can be written make a properties file, whatever ends its lines, in whatever order they
are and whatever blank lines and comments there are between them, that is read as the record of these. -/
theorem parse_of_written {settings : Settings} (hs : settings.StandardSession) (source : String)
    {id : ApplicationId} {address : Option (String × Int)} {dynamic : Ordered String}
    (hid : 0 ≤ id.timestamp ∧ 0 ≤ id.sequence ∧ Text.isWritable id.timestamp = true ∧
      Text.isWritable id.sequence = true)
    (haddress : ∀ host port, address = some (host, port) →
      IsHost host ∧ 0 ≤ port ∧ Text.isWritable port = true)
    (hdynamic : ∀ e ∈ dynamic.entries, IsDynamicProperty e)
    (hvalid : ∃ tolerance c, Configuration.ofValues tolerance (asValues dynamic) = .ok c) :
    ∃ idText, id.text = .ok idText ∧
      ∀ lineEnd ls, Text.IsLineEnd lineEnd →
        (∀ l ∈ ls, isIgnored l = true → Text.BreakFree l) →
        (ls.filter fun l => !isIgnored l).Perm
          ((assignmentsOf idText (address.map addressText) (dynamicText? dynamic)).map assignmentText) →
        parse settings source (.ofList (lineEnd.intercalate ls)) =
          .ok ⟨id, address.map Prod.fst, address.map Prod.snd, dynamic⟩ := by
  obtain ⟨timestamp, sequence⟩ := id
  obtain ⟨ht, hq, htw, hqw⟩ := hid
  obtain ⟨timestamp, rfl⟩ := Int.eq_ofNat_of_zero_le ht
  obtain ⟨sequence, rfl⟩ := Int.eq_ofNat_of_zero_le hq
  refine ⟨_, ApplicationId.text_eq_ok htw hqw, fun lineEnd ls hend hignored hperm => ?_⟩
  have hlines : ∀ e ∈ assignmentsOf (.ofList (ApplicationId.characters timestamp sequence))
      (address.map addressText) (dynamicText? dynamic),
      IsPlain e ∧ Text.BreakFree (assignmentText e) := by
    refine forall_assignmentsOf (plain_line (by simp) ?_) (fun s hs => plain_line (by simp) ?_)
      (fun s hs => plain_line (by simp) (trimmed_breakFree_of_dynamicText? hdynamic hs))
    · rw [String.toList_ofList]
      exact ⟨ApplicationId.trimmed_characters _ _,
        .of_not_isBlank fun c hc => ApplicationId.isBlank_of_mem_characters hc⟩
    · obtain ⟨⟨host, port⟩, ha, rfl⟩ := Option.map_eq_some_iff.1 hs
      obtain ⟨hhost, hport, -⟩ := haddress host port ha
      obtain ⟨port, rfl⟩ := Int.eq_ofNat_of_zero_le hport
      exact ⟨trimmed_addressText hhost port, breakFree_addressText hhost port⟩
  have hlast (key : String) := lastAssigned?_written nodup_assignmentsOf (fun e he => (hlines e he).1)
    (fun e he => (hlines e he).2) hend hignored hperm key
  have ⟨hlookId, hlookAddress, hlookDynamic⟩ := @lookup_assignmentsOf
    (.ofList (ApplicationId.characters timestamp sequence)) (address.map addressText) (dynamicText? dynamic)
  rw [parse_eq_ok_iff hs, hlast, hlast, hlast, hlookId, hlookAddress, hlookDynamic]
  refine ⟨⟨_, rfl, ApplicationId.parse_characters htw hqw⟩, ?_, ?_⟩
  · cases address with
    | none => exact .inl ⟨rfl, rfl, rfl⟩
    | some a =>
      obtain ⟨host, port⟩ := a
      obtain ⟨hhost, hport, hw⟩ := haddress host port rfl
      obtain ⟨port, rfl⟩ := Int.eq_ofNat_of_zero_le hport
      exact .inr ⟨_, host, port, rfl, parseAddress_addressText hhost hw "", rfl, rfl⟩
  · obtain ⟨ps, hcut, hall, hps⟩ := exists_cut_dynamicText? hdynamic
    obtain ⟨tolerance, c, hc⟩ := hvalid
    exact ⟨ps, hcut, hall, hps, c, exists_ofValues_asValues hc _⟩

/-- Two dynamic properties whose values hold characters that separate elsewhere. -/
def sampleDynamic : Ordered String :=
  ⟨[("a", "@x=y # z"), ("taskmanager.numberOfTaskSlots", "4")], by decide⟩

/-- The properties of the sample can be written. -/
theorem isDynamicProperty_sampleDynamic : ∀ e ∈ sampleDynamic.entries, IsDynamicProperty e := by
  intro e he
  simp only [sampleDynamic, List.mem_cons, List.not_mem_nil, or_false] at he
  rcases he with rfl | rfl
  · exact ⟨⟨by decide, .of_trim_eq (by decide), by decide, .of_trim_eq (by decide)⟩, by decide,
      .of_any (by decide), by decide, .of_any (by decide), by decide⟩
  · exact ⟨⟨by decide, .of_trim_eq (by decide), by decide, .of_trim_eq (by decide)⟩, by decide,
      .of_any (by decide), by decide, .of_any (by decide), by decide⟩

/-- A file with its lines in another order and with a comment and a blank line between them. -/
theorem parse_sampleDynamic : parse .standard "session" (.ofList ("\r\n".toList.intercalate
    ["! session".toList, "jobManager=a:b c:6123".toList, " ".toList,
      "dynamicPropertiesString=a=@x=y # z@@taskmanager.numberOfTaskSlots=4".toList,
      "applicationID=application_17_0003".toList])) =
    .ok ⟨⟨17, 3⟩, some "a:b c", some 6123, sampleDynamic⟩ := by
  have hid : 0 ≤ (ApplicationId.mk 17 3).timestamp ∧ 0 ≤ (ApplicationId.mk 17 3).sequence ∧
      Text.isWritable (ApplicationId.mk 17 3).timestamp = true ∧
      Text.isWritable (ApplicationId.mk 17 3).sequence = true := by
    decide +kernel
  have haddress : ∀ host port, some ("a:b c", (6123 : Int)) = some (host, port) →
      IsHost host ∧ 0 ≤ port ∧ Text.isWritable port = true := by
    rintro _ _ ⟨⟩
    exact ⟨⟨by decide, fun c hc => by cases hc; decide, .of_any (by decide)⟩, by decide,
      by decide +kernel⟩
  obtain ⟨idText, htext, h⟩ := parse_of_written Settings.standardSession_standard "session" hid haddress
    isDynamicProperty_sampleDynamic ⟨.standard, _, rfl⟩
  have hidText : (ApplicationId.mk 17 3).text = .ok "application_17_0003" := by decide +kernel
  obtain rfl := Except.ok.inj (hidText.symm.trans htext)
  refine h _ _ .crlf (fun l hl _ => .of_any ?_) (by decide +kernel)
  revert l
  decide

end ClusterPlan.SessionRecord
