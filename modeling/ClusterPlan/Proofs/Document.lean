import ClusterPlan.Plan.Document
import ClusterPlan.Proofs.ApplicationId

/-!
# Plans as documents

A page is only written on: whatever is printed behind something leaves it as it stands (`Page.Extends`). So a
document begins with its first entry, and if key and text of this one are words, with both of them as they are
(`Yaml.print_word`). A plan that has an application to attach to names it on its first line
(`Plan.exists_document_eq`).
-/

namespace ClusterPlan

namespace Yaml

namespace Page

/-! ## What is written stays -/

/-- The second page is the first one, written further. -/
def Extends (p q : Page) : Prop := p.written.toList <+: q.written.toList

variable {p q r : Page}

/-- A page is itself, written no further. -/
theorem Extends.refl (p : Page) : p.Extends p := List.prefix_rfl

/-- A page that is written further and further is written further. -/
theorem Extends.trans (h : p.Extends q) (h' : q.Extends r) : p.Extends r :=
  List.IsPrefix.trans h h'

/-- Either of two ways to write on. -/
theorem Extends.ite {b : Prop} [Decidable b] (h : p.Extends q) (h' : p.Extends r) :
    p.Extends (if b then q else r) := by
  split
  · exact h
  · exact h'

/-- A character is put at the end. -/
theorem extends_put (p : Page) (c : Char) : p.Extends (p.put c) := by
  rw [Extends, put, String.toList_push]
  exact List.prefix_append ..

/-- So is a line break. -/
theorem extends_putBreak (p : Page) (c : Char) : p.Extends (p.putBreak c) := by
  rw [Extends, putBreak, String.toList_push]
  exact List.prefix_append ..

/-- And so are characters one after the other. -/
theorem extends_putAll (p : Page) (cs : List Char) : p.Extends (p.putAll cs) := by
  induction cs generalizing p with
  | nil => exact .refl p
  | cons c cs ih => exact (p.extends_put c).trans (ih (p.put c))

/-- A line is begun and indented. -/
theorem extends_indentTo (p : Page) (indent : Nat) : p.Extends (p.indentTo indent) :=
  Extends.trans (.ite (p.extends_putBreak '\n') (.refl p)) (extends_putAll ..)

/-- A new line is begun behind what is written on this one. -/
theorem putBreak_extends_indentTo (h : p.blank = false) (indent : Nat) :
    (p.putBreak '\n').Extends (p.indentTo indent) := by
  rw [indentTo, if_pos (by simp [h])]
  exact extends_putAll ..

/-- A mark is put behind a space or at once. -/
theorem extends_mark (p : Page) (m : String) (apart keeps : Bool) : p.Extends (p.mark m apart keeps) :=
  Extends.trans (.ite (p.extends_put ' ') (.refl p)) (extends_putAll ..)

/-- The characters of a plain text, some of the spaces as line breaks, by induction on the text. -/
theorem extends_plainChars (folds : Bool) (indent : Nat) (before : Option Char) (cs : List Char)
    (p : Page) : p.Extends (plainChars folds indent before cs p) := by
  induction cs generalizing before p with
  | nil => exact .refl p
  | cons c cs ih =>
    rw [plainChars]
    refine Extends.trans ?_ (ih ..)
    exact .ite (p.extends_indentTo indent) (.ite (p.extends_put c) (p.extends_put c))

/-- A plain text, behind a space. -/
theorem extends_plain (p : Page) (folds : Bool) (indent : Nat) (cs : List Char) :
    p.Extends (p.plain folds indent cs) :=
  Extends.trans (.ite (p.extends_put ' ') (.refl p)) (extends_plainChars ..)

/-- The characters between single quotes, likewise. -/
theorem extends_singleChars (folds : Bool) (indent : Nat) (before : Option Char) (cs : List Char)
    (p : Page) : p.Extends (singleChars folds indent before cs p) := by
  induction cs generalizing before p with
  | nil => exact .ite (p.extends_indentTo indent) (.refl p)
  | cons c cs ih =>
    rw [singleChars]
    refine Extends.trans ?_ (ih ..)
    refine .ite ?space (.ite ?newline ?other)
    case space => exact .ite (p.extends_indentTo indent) (p.extends_put c)
    case newline => exact Extends.trans (.ite (p.extends_putBreak '\n') (.refl p)) (extends_putBreak ..)
    case other =>
      refine Extends.trans ?_ (extends_put ..)
      refine Extends.trans ?_ (.ite (extends_put ..) (.refl _))
      exact .ite (p.extends_indentTo indent) (.refl p)

/-- A text between single quotes. -/
theorem extends_single (p : Page) (folds : Bool) (indent : Nat) (cs : List Char) :
    p.Extends (p.single folds indent cs) :=
  ((p.extends_mark ..).trans (extends_singleChars ..)).trans (extends_mark _ "'" false false)

/-- The characters between double quotes, escapes and folds included. -/
theorem extends_doubleChars (folds : Bool) (indent : Nat) (start spaces : Bool) (cs : List Char)
    (p : Page) : p.Extends (doubleChars folds indent start spaces cs p) := by
  induction cs generalizing start spaces p with
  | nil => exact .refl p
  | cons c cs ih =>
    rw [doubleChars]
    refine .ite ((p.extends_putAll _).trans (ih ..)) (.ite ?space ((p.extends_put c).trans (ih ..)))
    case space =>
      refine Extends.trans ?_ (ih ..)
      refine .ite ?_ (p.extends_put c)
      exact (p.extends_indentTo indent).trans (.ite (extends_put ..) (.refl _))

/-- A text between double quotes. -/
theorem extends_double (p : Page) (folds : Bool) (indent : Nat) (cs : List Char) :
    p.Extends (p.double folds indent cs) :=
  ((p.extends_mark ..).trans (extends_doubleChars ..)).trans (extends_mark _ "\"" false false)

/-- A text in the style that it is given. -/
theorem extends_text (p : Page) (folds : Bool) (indent : Nat) (s : String) :
    p.Extends (p.text folds indent s) := by
  unfold text
  cases styleOf s with
  | plain => exact p.extends_plain ..
  | single => exact p.extends_single ..
  | double => exact p.extends_double ..

/-- A key is written behind the start of its line. -/
theorem indentTo_extends_key (p : Page) (indent : Nat) (s : String) :
    (p.indentTo indent).Extends (p.key indent s) := by
  refine .ite ?simple ?long
  case simple => exact (extends_text ..).trans (extends_mark ..)
  case long =>
    exact ((extends_mark ..).trans (extends_text ..)).trans ((extends_indentTo ..).trans (extends_mark ..))

/-- The items of a list, each on a line of its own. -/
theorem extends_items (p : Page) (indent : Nat) (ss : List String) : p.Extends (p.items indent ss) := by
  induction ss generalizing p with
  | nil => exact .refl p
  | cons s ss ih =>
    exact (((p.extends_indentTo indent).trans (extends_mark ..)).trans (extends_text ..)).trans (ih _)

mutual

/-- A value of any kind, by induction on what is inside. -/
theorem extends_value (p : Page) (indent : Nat) : (v : Sheet) → p.Extends (p.value indent v)
  | .null => p.extends_plain ..
  | .word _ => p.extends_plain ..
  | .text s => p.extends_text true (indent + step) s
  | .list [] => (p.extends_mark ..).trans (extends_mark ..)
  | .list (_ :: _) => p.extends_items ..
  | .mapping [] => (p.extends_mark ..).trans (extends_mark ..)
  | .mapping (e :: es) => (p.extends_entry (indent + step) e).trans (extends_entries _ (indent + step) es)

/-- The entries of a mapping, one after the other. -/
theorem extends_entries (p : Page) (indent : Nat) :
    (es : List (String × Sheet)) → p.Extends (p.entries indent es)
  | [] => .refl p
  | e :: es => (p.extends_entry indent e).trans (extends_entries _ indent es)

/-- The key of an entry and its value. -/
theorem extends_entry (p : Page) (indent : Nat) : (e : String × Sheet) → p.Extends (p.entry indent e)
  | (k, v) => ((p.extends_indentTo indent).trans (p.indentTo_extends_key indent k)).trans
      (extends_value _ indent v)

end

/-- An entry behind something on the same line begins a new one. -/
theorem putBreak_extends_entry (h : p.blank = false) (indent : Nat) (e : String × Sheet) :
    (p.putBreak '\n').Extends (p.entry indent e) := by
  obtain ⟨k, v⟩ := e
  exact ((putBreak_extends_indentTo h indent).trans (p.indentTo_extends_key indent k)).trans
    (extends_value _ indent v)

/-! ## Words -/

/-- Characters other than spaces are written as they are. -/
theorem written_plainChars {cs : List Char} (h : ' ' ∉ cs) (folds : Bool) (indent : Nat)
    (before : Option Char) (p : Page) :
    (plainChars folds indent before cs p).written.toList = p.written.toList ++ cs := by
  induction cs generalizing before p with
  | nil => exact (List.append_nil _).symm
  | cons c cs ih =>
    rw [List.mem_cons, not_or] at h
    have hc : c ≠ ' ' := Ne.symm h.1
    rw [plainChars, ih h.2]
    simp [hc, put]

end Page

/-- A text that is written plainly and has no space in it, where its line could be broken. -/
structure IsWord (s : String) : Prop where
  style : styleOf s = .plain
  unbroken : ' ' ∉ s.toList
  nonempty : s.toList ≠ []

namespace Page

/-- A word is written as it is, behind a space unless there is one. -/
theorem text_word {s : String} (h : IsWord s) (p : Page) (folds : Bool) (indent : Nat) :
    (p.text folds indent s).written.toList =
        p.written.toList ++ (if p.spaced then [] else [' ']) ++ s.toList ∧
      (p.text folds indent s).spaced = false ∧ (p.text folds indent s).blank = false := by
  unfold text
  rw [h.style]
  refine ⟨?_, rfl, rfl⟩
  show (plainChars folds indent none s.toList _).written.toList = _
  rw [written_plainChars h.unbroken]
  have hempty : s.toList.isEmpty = false := by simpa using h.nonempty
  rw [hempty]
  cases p.spaced with
  | true => simp
  | false => simp [put]

end Page

/-- The first line of a document whose first entry is made of words. -/
theorem print_word {k s : String} (hk : IsWord k) (hsimple : isSimpleKey k = true) (hs : IsWord s)
    (e : String × Sheet) (es : List (String × Sheet)) :
    ∃ rest, print ((k, .text s) :: e :: es) = k ++ ": " ++ s ++ "\n" ++ rest := by
  let p : Page := Page.entry {} 0 (k, .text s)
  obtain ⟨hkey, -, -⟩ := Page.text_word hk {} false Page.step
  obtain ⟨htext, -, hblank⟩ := Page.text_word hs (Page.key {} 0 k) true Page.step
  have hp : p.written.toList = k.toList ++ ": ".toList ++ s.toList := by
    refine htext.trans ?_
    have hindent : Page.indentTo {} 0 = {} := rfl
    have hmark : Page.key {} 0 k = (Page.text {} false Page.step k).mark ":" false false := by
      rw [Page.key, hindent, if_pos hsimple]
      rfl
    rw [hmark]
    simp [Page.mark, Page.putAll, Page.put, hkey]
  have hprefix : (p.putBreak '\n').Extends (((p.entry 0 e).entries 0 es).indentTo 0) :=
    ((Page.putBreak_extends_entry hblank 0 e).trans (Page.extends_entries _ 0 es)).trans
      (Page.extends_indentTo _ 0)
  obtain ⟨rest, hrest⟩ := hprefix
  refine ⟨.ofList rest, String.toList_inj.1 ?_⟩
  show (((p.entry 0 e).entries 0 es).indentTo 0).written.toList = _
  rw [← hrest]
  simp [Page.putBreak, hp]

/-! ## Application IDs -/

/-- A text without colons and number signs holds no mark of a key or a comment. -/
theorem hasMark_eq_false {cs : List Char} (h : ':' ∉ cs) (h' : '#' ∉ cs) (gap : Bool) :
    hasMark gap cs = false := by
  induction cs generalizing gap with
  | nil => rfl
  | cons c cs ih =>
    rw [List.mem_cons, not_or] at h h'
    simp [hasMark, Ne.symm h.1, Ne.symm h'.1, ih h.2 h'.2]

/-- Without the first character of a pair there is no pair. -/
theorem hasPair_eq_false {p q : Char → Bool} {cs : List Char} (h : ∀ c ∈ cs, p c = false) :
    hasPair p q cs = false := by
  induction cs with
  | nil => rfl
  | cons c cs ih =>
    cases cs with
    | nil => rfl
    | cons d cs =>
      rw [hasPair, h c List.mem_cons_self, ih fun c hc => h c (List.mem_cons_of_mem _ hc)]
      rfl

/-- What begins with these letters and does not end in a line feed is no number, no date and no word with a
meaning of its own. -/
theorem Tag.ofPlain_eq_str {cs : List Char} (h : ('a' :: 'p' :: cs).getLast? ≠ some '\n') :
    Tag.ofPlain (.ofList ('a' :: 'p' :: cs)) = .str := by
  have hwords (ws : List String) (hws : ∀ w ∈ ws, w.toList.head? ≠ some 'a') :
      String.ofList ('a' :: 'p' :: cs) ∉ ws := by
    intro hm
    exact hws _ hm (by simp)
  have hword (w : String) (hw : w.toList.head? ≠ some 'a') : String.ofList ('a' :: 'p' :: cs) ≠ w := by
    simpa using hwords [w] (List.forall_mem_singleton.2 hw)
  have hfloat : isFloat ('a' :: 'p' :: cs) = false := by
    have hsign : dropSign ('a' :: 'p' :: cs) = 'a' :: 'p' :: cs := rfl
    rw [isFloat, hsign, if_neg (hwords [".inf", ".Inf", ".INF"] (by decide)),
      if_neg (hwords [".nan", ".NaN", ".NAN"] (by decide))]
    rfl
  have hint : isInt ('a' :: 'p' :: cs) = false := rfl
  have htime : isTimestamp ('a' :: 'p' :: cs) = false := by
    cases cs with
    | nil => rfl
    | cons c cs => cases cs <;> rfl
  have hbreak : dropFinalBreak ('a' :: 'p' :: cs) = 'a' :: 'p' :: cs := if_neg h
  rw [ofPlain]
  simp only [if_neg (hword "\n" (by decide)), String.toList_ofList, hbreak]
  rw [if_neg (hwords nullWords (by decide)), if_neg (hwords boolWords (by decide)),
    if_neg (hword "<<" (by decide)), if_neg (hword "=" (by decide)), hfloat, hint, htime]
  rfl

/-- The text of an application ID is a word. -/
theorem isWord_characters (timestamp sequence : Nat) :
    IsWord (.ofList (ApplicationId.characters timestamp sequence)) := by
  obtain ⟨cs, hcs⟩ : ∃ cs, ApplicationId.characters timestamp sequence = 'a' :: 'p' :: cs := ⟨_, rfl⟩
  have hall {p : Char → Bool} (hp : ApplicationId.alphabet.all p = true) (c : Char)
      (hc : c ∈ 'a' :: 'p' :: cs) : p c = true :=
    List.all_eq_true.1 hp c (ApplicationId.mem_alphabet (hcs ▸ hc))
  have hbreak (c : Char) (hc : c ∈ 'a' :: 'p' :: cs) : isBreak c = false := by
    simpa using hall (p := fun c => !isBreak c) (by decide) c hc
  have hnone {d : Char} (hd : d ∉ ApplicationId.alphabet) : d ∉ 'a' :: 'p' :: cs :=
    fun hc => hd (ApplicationId.mem_alphabet (hcs ▸ hc))
  have hspace : ' ' ∉ 'a' :: 'p' :: cs := hnone (by decide)
  have hsingle : allowsSingle ('a' :: 'p' :: cs) = true := by
    have hplain : ('a' :: 'p' :: cs).all isPlainChar = true :=
      List.all_eq_true.2 (hall (p := isPlainChar) (by decide))
    have hgap (c : Char) (hc : c ∈ 'a' :: 'p' :: cs) : decide (c = ' ') = false :=
      decide_eq_false fun h => hspace (h ▸ hc)
    rw [allowsSingle, hplain, hasPair_eq_false hbreak, hasPair_eq_false hgap]
    rfl
  have hindicator : hasIndicator ('a' :: 'p' :: cs) = false := by
    show (openingMarks.contains 'a' || (('a' = '?' || 'a' = '-') && ('p' :: cs).head?.all isGap) ||
      hasMark false ('a' :: 'p' :: cs)) = false
    rw [hasMark_eq_false (hnone (by decide)) (hnone (by decide))]
    rfl
  have hlast : (('a' :: 'p' :: cs).getLast?.any fun c => c = ' ' || isBreak c) = false := by
    rw [Option.any_eq_false_iff_get]
    intro h
    have hmem := List.mem_of_getLast? (Option.get_mem h)
    rw [hbreak _ hmem, Bool.or_false]
    exact decide_eq_false fun h' => hspace (h' ▸ hmem)
  have hunbroken : ('a' :: 'p' :: cs).any isBreak = false := by
    simpa using hbreak
  have hplain : allowsPlain ('a' :: 'p' :: cs) = true := by
    rw [allowsPlain, hsingle, hindicator, hunbroken]
    simp only [hlast]
    rfl
  have htag : Tag.ofPlain (.ofList ('a' :: 'p' :: cs)) = .str :=
    Tag.ofPlain_eq_str fun h => hnone (d := '\n') (by decide) (List.mem_of_getLast? h)
  rw [hcs]
  refine ⟨?_, by rwa [String.toList_ofList], by rw [String.toList_ofList]; exact List.cons_ne_nil _ _⟩
  rw [styleOf, String.toList_ofList, hplain, htag]
  rfl

end Yaml

/-- The descriptor of a plan is that of the configuration. -/
theorem Plan.descriptor_of_describe {env : Environment} {c : Configuration} {d : ClusterDescriptor}
    (h : describe env c = .ok d) : c.descriptor env.tolerance env.directoryPath = .ok d := by
  obtain ⟨d', hd, h⟩ := bind_eq_ok.1 h
  have hsame : d' = d := by
    split at h
    · obtain ⟨_, -, h⟩ := bind_eq_ok.1 h
      exact Except.ok.inj h
    · exact Except.ok.inj h
  exact hsame ▸ hd

/-- The parts of a plan are derived from the configuration, each on its own. -/
theorem Plan.ofConfiguration_eq_ok_iff {env : Environment} {c : Configuration} {p : Plan} :
    ofConfiguration env c = .ok p ↔ c.specification = .ok p.specification ∧
      describe env c = .ok p.descriptor ∧ c.clusterId env.tolerance = .ok p.clusterId := by
  constructor
  · intro h
    obtain ⟨specification, hs, h⟩ := bind_eq_ok.1 h
    obtain ⟨descriptor, hd, h⟩ := bind_eq_ok.1 h
    obtain ⟨clusterId, hid, h⟩ := bind_eq_ok.1 h
    obtain rfl := Except.ok.inj h
    exact ⟨hs, hd, hid⟩
  · rintro ⟨hs, hd, hid⟩
    exact bind_eq_ok.2 ⟨_, hs, bind_eq_ok.2 ⟨_, hd, bind_eq_ok.2 ⟨_, hid, rfl⟩⟩⟩

/-- The document of a plan names the application to attach to on its first line. -/
theorem Plan.exists_document_eq {p : Plan} {tolerance : Tolerance} {s text : String}
    (hid : p.clusterText = .ok (some s)) (hs : Yaml.IsWord s) (h : p.document tolerance = .ok text) :
    ∃ rest, text = "cluster_id: " ++ s ++ "\n" ++ rest := by
  obtain ⟨id, hid', h⟩ := bind_eq_ok.1 h
  obtain ⟨strings, -, h⟩ := bind_eq_ok.1 h
  obtain ⟨master, -, h⟩ := bind_eq_ok.1 h
  obtain ⟨worker, -, h⟩ := bind_eq_ok.1 h
  obtain ⟨slots, -, h⟩ := bind_eq_ok.1 h
  obtain rfl := Except.ok.inj (hid.symm.trans hid')
  obtain rfl := Except.ok.inj h
  have hkey : Yaml.IsWord "cluster_id" := ⟨by decide +kernel, by decide, by decide⟩
  have hsimple : Yaml.isSimpleKey "cluster_id" = true := by decide +kernel
  exact Yaml.print_word hkey hsimple hs _ _

end ClusterPlan
