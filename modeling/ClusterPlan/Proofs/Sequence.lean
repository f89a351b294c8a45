import ClusterPlan.Proofs.Format
import ClusterPlan.Proofs.Session

/-!
# Lists that are given item by item

A list can be given as a text, which is split at the semicolons, or item by item, and then the items are
kept as they are, whatever is in them. Both kinds are written in the same way, as one text. Read again it is
the list of the pieces of the items (`ConfigOption.splitList_join`), so a list that was given item by item
comes back exactly when each item could have come out of a text (`ConfigOption.splitList_join_eq_iff`).
The main statement is `ConfigOption.sequence_reads_back_iff`.
-/

namespace ClusterPlan

namespace ConfigOption

/-- The text of a list: its items with separators between them. -/
def join (ss : List String) : String :=
  (String.singleton listSeparator).intercalate ss

/-! ## Splitting a text that was joined -/

/-- A text with a separator in it is split on either side. -/
theorem splitList_append_separator (s t : String) :
    splitList (s ++ String.singleton listSeparator ++ t) = splitList s ++ splitList t := by
  have hchars : (s ++ String.singleton listSeparator ++ t).toList =
      s.toList ++ listSeparator :: t.toList := by simp
  simp only [splitList, hchars, Text.pieces_eq_splitOn, List.splitOn_append_cons_self, List.map_append,
    List.filter_append]

/-- What is read of a list that was joined is what is read of its items, one after another. -/
theorem splitList_join : ∀ ss : List String, splitList (join ss) = ss.flatMap splitList
  | [] => by decide
  | [s] => by simp [join]
  | s :: t :: ss => by
    rw [join, String.intercalate_cons_cons, splitList_append_separator, List.flatMap_cons, ← join,
      splitList_join (t :: ss)]

/-- A list comes back from its text exactly when each of its items could have come out of a text. -/
theorem splitList_join_eq_iff {ss : List String} :
    splitList (join ss) = ss ↔ ∀ s ∈ ss, IsItem s :=
  ⟨fun h _ hs => isItem_of_mem_splitList (h ▸ hs), splitList_intercalate⟩

/-! ## Options of lists -/

section
variable {tolerance : Tolerance} {o : ConfigOption}

/-- Items that are given one by one are kept. -/
theorem convert_sequence (ho : o.type = .list) {ss : List String} {given : Value}
    (hg : given = .list (ss.map .str) ∨ given = .tuple (ss.map .str)) :
    o.convert tolerance given = .ok (.list (ss.map .str)) := by
  obtain ⟨key, type, default, description⟩ := o
  cases ho
  have htexts : texts tolerance (ss.map .str) = .ok ss := mapM_map_str (fun _ => rfl) ss
  rcases hg with rfl | rfl <;>
    · show (do return Value.list ((← texts tolerance (ss.map .str)).map .str)) = _
      rw [htexts]
      rfl

theorem format_texts (ho : o.type = .list) (ss : List String) :
    o.format tolerance (.list (ss.map .str)) = .ok (join ss) := by
  obtain ⟨key, type, default, description⟩ := o
  cases ho
  show (do return (String.singleton listSeparator).intercalate (← List.mapM _ _)) = _
  rw [mapM_map_str fun _ => rfl]
  rfl

theorem convert_text (ho : o.type = .list) (s : String) :
    o.convert tolerance (.str s) = .ok (.list ((splitList s).map .str)) := by
  obtain ⟨key, type, default, description⟩ := o
  cases ho
  rfl

/-- Lists of texts are the same when the texts are. -/
theorem list_map_str_inj {ss ts : List String} :
    Value.list (ss.map .str) = .list (ts.map .str) ↔ ss = ts := by
  constructor
  · intro h
    have hinj : Function.Injective Value.str := fun s t h => Value.str.inj h
    exact hinj.list_map (Value.list.inj h)
  · rintro rfl
    rfl

end

end ConfigOption

namespace Configuration

variable {tolerance : Tolerance} {c d : Configuration}

/-- What a configuration that was written and read again has under the key of a list. -/
theorem get?_list_of_toStrings {o : ConfigOption} (ho : o ∈ ConfigOption.registry)
    (ht : o.type = .list) {ss : List String} (hc : c.get? o.key = some (.list (ss.map .str)))
    {strings : Ordered String} (hs : c.toStrings tolerance = .ok strings) :
    strings.get? o.key = some (ConfigOption.join ss) ∧
      ∀ d, ofValues tolerance (SessionRecord.asValues strings) = .ok d →
        d.get? o.key = some (.list ((ss.flatMap ConfigOption.splitList).map .str)) := by
  have hknown := ConfigOption.known?_key ho
  obtain ⟨t, hformat, hget⟩ := Ordered.get?_of_traverse hs hc
  rw [formatEntry, hknown] at hformat
  obtain rfl := Except.ok.inj ((ConfigOption.format_texts ht ss).symm.trans hformat)
  refine ⟨hget, fun d hd => ?_⟩
  have hstr : (SessionRecord.asValues strings).get? o.key = some (.str (ConfigOption.join ss)) := by
    rw [SessionRecord.asValues, Ordered.get?_map, hget]
    rfl
  obtain ⟨w, hw, hget'⟩ := Ordered.get?_of_traverse (ofValues_eq_ok_iff.1 hd) hstr
  rw [convertEntry, hknown] at hw
  obtain rfl := Except.ok.inj ((ConfigOption.convert_text ht _).symm.trans hw)
  rw [← ConfigOption.splitList_join]
  exact hget'

end Configuration

namespace ConfigOption

/-- **A list that is given item by item need not come back from its text.** An option of lists keeps the
items as they are and writes them with semicolons between them. What it reads from that text is the list of
the pieces of the items, which is the list that was given exactly when no item is empty, has a blank at one of
its ends or a semicolon in it. The same holds of the ship files of a configuration that is written as texts
and read again. -/
theorem sequence_reads_back_iff (tolerance : Tolerance) {o : ConfigOption} (ho : o.type = .list)
    {ss : List String} {given : Value}
    (hg : given = .list (ss.map .str) ∨ given = .tuple (ss.map .str)) :
    (∃ v t, o.convert tolerance given = .ok v ∧ v = .list (ss.map .str) ∧
      o.format tolerance v = .ok t ∧ t = join ss ∧
      o.convert tolerance (.str t) = .ok (.list ((ss.flatMap splitList).map .str)) ∧
      (o.convert tolerance (.str t) = .ok v ↔
        ∀ s ∈ ss, Text.Trimmed s.toList ∧ s ≠ "" ∧ listSeparator ∉ s.toList)) ∧
    ∀ (c : Configuration) (strings : Ordered String),
      c.get? shipFiles.key = some (.list (ss.map .str)) → c.toStrings tolerance = .ok strings →
      strings.get? shipFiles.key = some (join ss) ∧
      ∀ d, Configuration.ofValues tolerance (SessionRecord.asValues strings) = .ok d →
        (d.get? shipFiles.key = c.get? shipFiles.key ↔
          ∀ s ∈ ss, Text.Trimmed s.toList ∧ s ≠ "" ∧ listSeparator ∉ s.toList) := by
  have hitem (s : String) : IsItem s ↔ Text.Trimmed s.toList ∧ s ≠ "" ∧ listSeparator ∉ s.toList :=
    ⟨fun h => ⟨h.trimmed, fun e => h.nonempty (by rw [e]; rfl), h.separator⟩,
      fun ⟨h₁, h₂, h₃⟩ => ⟨h₁, fun e => h₂ (String.toList_inj.1 e), h₃⟩⟩
  have hback : ss.flatMap splitList = ss ↔
      ∀ s ∈ ss, Text.Trimmed s.toList ∧ s ≠ "" ∧ listSeparator ∉ s.toList := by
    rw [← splitList_join, splitList_join_eq_iff]
    exact forall₂_congr fun s _ => hitem s
  have hread : o.convert tolerance (.str (join ss)) = .ok (.list ((ss.flatMap splitList).map .str)) := by
    rw [convert_text ho, splitList_join]
  refine ⟨⟨_, _, convert_sequence ho hg, rfl, format_texts ho ss, rfl, hread, ?_⟩,
    fun c strings hc hs => ?_⟩
  · rw [hread, Except.ok.injEq, list_map_str_inj, hback]
  · have ⟨htext, hd⟩ := Configuration.get?_list_of_toStrings (by simp [registry]) rfl hc hs
    refine ⟨htext, fun d hread' => ?_⟩
    rw [hd d hread', hc, Option.some.injEq, list_map_str_inj, hback]

/-- Two files with a blank inside one of the names come back. -/
theorem sequence_reads_back_of_items : ∃ v t,
    shipFiles.convert .standard (.tuple [.str "/a b.jar", .str "/c"]) = .ok v ∧
    shipFiles.format .standard v = .ok t ∧ t = "/a b.jar;/c" ∧
    shipFiles.convert .standard (.str t) = .ok v := by
  have hgiven : Value.tuple [.str "/a b.jar", .str "/c"] = .tuple (["/a b.jar", "/c"].map .str) := rfl
  obtain ⟨⟨v, t, hv, -, ht, rfl, -, hiff⟩, -⟩ :=
    sequence_reads_back_iff .standard (o := shipFiles) rfl (.inr hgiven)
  refine ⟨v, _, hv, ht, rfl, hiff.2 fun s hs => ?_⟩
  simp only [List.mem_cons, List.not_mem_nil, or_false] at hs
  rcases hs with rfl | rfl
  · exact ⟨.of_trim_eq (by decide), by decide, by decide⟩
  · exact ⟨.of_trim_eq (by decide), by decide, by decide⟩

/-- A file with a semicolon in its name comes back as two. -/
theorem not_reads_back_of_separator : ∃ v t,
    shipFiles.convert .standard (.list [.str "/data/a;b.jar"]) = .ok v ∧
    shipFiles.format .standard v = .ok t ∧
    shipFiles.convert .standard (.str t) = .ok (.list [.str "/data/a", .str "b.jar"]) ∧
    shipFiles.convert .standard (.str t) ≠ .ok v := by
  refine ⟨.list [.str "/data/a;b.jar"], "/data/a;b.jar", rfl, rfl, rfl, fun h => ?_⟩
  have hsame : Value.list [.str "/data/a", .str "b.jar"] = .list [.str "/data/a;b.jar"] :=
    Except.ok.inj h
  simp at hsame

end ConfigOption

end ClusterPlan
