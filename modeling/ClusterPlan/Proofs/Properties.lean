import ClusterPlan.Session
import ClusterPlan.Proofs.Assignment
import ClusterPlan.Proofs.Lines
import ClusterPlan.Proofs.Ordered

/-!
# Assignments of a properties file

Every line of a properties file that is neither blank nor a comment is an assignment: what stands in front of
its first equals sign is the key and what stands behind it the value, both without the blanks around them
(`assigned?`). The last assignment of a key counts (`lastAssigned?`), and that is what a properties file has
under each name (`get?_properties`). Only what is no name, since it is empty or starts with an equals sign,
comes out differently.
-/

namespace ClusterPlan.SessionRecord

/-- The line is blank or a comment. -/
def isIgnored (line : List Char) : Bool :=
  match Text.trim line with
  | [] => true
  | c :: _ => c == '#' || c == '!'

/-- What a line assigns to what. -/
def assigned? (line : List Char) : Option (String × String) :=
  if isIgnored line then none else some (Text.splitAtEquals line)

theorem filterMap_assigned? (ls : List (List Char)) :
    ls.filterMap assigned? = (ls.filter fun l => !isIgnored l).map Text.splitAtEquals := by
  rw [← List.filterMap_eq_map, List.filterMap_filter]
  refine List.filterMap_congr fun l _ => ?_
  rw [assigned?]
  cases isIgnored l <;> rfl

/-- The last value that some assignments give a key. -/
def lastValue? (key : String) (es : List (String × String)) : Option String :=
  Ordered.lookup key es.reverse

/-- The last value that the lines of a text assign to a key. -/
def lastAssigned? (key content : String) : Option String :=
  lastValue? key ((Text.lines content.toList).filterMap assigned?)

/-- The key is not empty and does not start with an equals sign. -/
def IsName (key : String) : Prop :=
  ∃ c, key.toList.head? = some c ∧ c ≠ '='

/-- A text that starts with an equals sign, without the equals signs that it ends with, is no name. -/
theorem not_isName_of_equals (value : List Char) :
    ¬ IsName (.ofList (Text.trim (('=' :: value).reverse.dropWhile (· = '=')).reverse)) := by
  rintro ⟨c, hc, hne⟩
  rw [String.toList_ofList] at hc
  obtain ⟨rest, hrest⟩ : (('=' :: value).reverse.dropWhile (· = '=')).reverse <+: '=' :: value := by
    rw [← List.reverse_suffix, List.reverse_reverse]
    exact List.dropWhile_suffix _
  cases hcs : (('=' :: value).reverse.dropWhile (· = '=')).reverse with
  | nil => rw [hcs] at hc; cases hc
  | cons d cs =>
    rw [hcs] at hc hrest
    obtain rfl : d = '=' := (List.cons.inj hrest).1
    rw [Text.head?_trim (by decide)] at hc
    exact hne (Option.some.inj hc).symm

theorem lineAssignment?_of_isIgnored {line : List Char} (h : isIgnored line = true) :
    lineAssignment? line = none := by
  rw [isIgnored] at h
  rw [lineAssignment?]
  cases hcs : Text.trim line with
  | nil => rfl
  | cons c cs =>
    rw [hcs] at h
    rcases Bool.or_eq_true_iff.1 h with h | h
    · obtain rfl := eq_of_beq h; rfl
    · obtain rfl := eq_of_beq h; rfl

/-- A line that is not ignored is an assignment, or all of it is a key once the equals signs at its end are
taken off. -/
theorem lineAssignment?_eq {line : List Char} (h : isIgnored line = false) :
    lineAssignment? line = ((Text.assignment? (.ofList (Text.trim line))).or
      (some (.ofList (Text.trim ((Text.trim line).reverse.dropWhile (· = '=')).reverse), ""))) := by
  rw [isIgnored] at h
  rw [lineAssignment?]
  split
  · next hnil => rw [hnil] at h; cases h
  · next hhash => rw [hhash] at h; cases h
  · next hbang => rw [hbang] at h; cases h
  · split
    · next hpair => rw [hpair]; rfl
    · next hnone => rw [hnone]; rfl

/-- A line that is not ignored is read as its assignment, or else, if it starts with an equals sign, as one
of something that is no name. -/
theorem lineAssignment?_of_not_isIgnored {line : List Char} (h : isIgnored line = false) :
    lineAssignment? line = some (Text.splitAtEquals line) ∨
      ∃ key value value', lineAssignment? line = some (key, value) ∧
        Text.splitAtEquals line = ("", value') ∧ ¬ IsName key := by
  have htrimmed := Text.trimmed_trim line
  rw [lineAssignment?_eq h, ← Text.splitAtEquals_trim]
  generalize Text.trim line = cs at htrimmed
  by_cases hassign : Text.IsAssignment cs
  · left
    rw [Text.assignment?_of_isAssignment (by rwa [String.toList_ofList]), String.toList_ofList]
    rfl
  · rw [Text.assignment?_of_not_isAssignment (by rwa [String.toList_ofList]), Option.none_or]
    rcases Text.exists_first_equals cs with hnot | ⟨key, value, hkey, rfl⟩
    · left
      have hstrip : (cs.reverse.dropWhile (· = '=')).reverse = cs := by
        rw [List.dropWhile_eq_self_iff.2, List.reverse_reverse]
        intro hl
        simp only [decide_eq_true_eq]
        exact fun e => hnot (e ▸ List.mem_reverse.1 (List.getElem_mem hl))
      rw [hstrip, Text.splitAtEquals_of_not_mem hnot]
    · right
      have hblank : Text.Blank key := by
        by_contra hblank
        exact hassign ⟨key, value, hkey, hblank, rfl⟩
      -- the text starts with no blank, so there is nothing in front of the equals sign
      obtain rfl : key = [] := by
        cases key with
        | nil => rfl
        | cons c key =>
          have := htrimmed.head c rfl
          rw [hblank c List.mem_cons_self] at this
          cases this
      exact ⟨_, "", _, rfl, Text.splitAtEquals_append hkey, not_isName_of_equals value⟩

/-- For a name a line counts as what it assigns. -/
theorem lookup_lineAssignment? {key : String} (hkey : IsName key) (line : List Char) :
    Ordered.lookup key (lineAssignment? line).toList = Ordered.lookup key (assigned? line).toList := by
  rw [assigned?]
  cases h : isIgnored line with
  | true => rw [lineAssignment?_of_isIgnored h]; rfl
  | false =>
    rw [if_neg (by simp)]
    rcases lineAssignment?_of_not_isIgnored h with hline | ⟨key', value, value', hline, hsplit, hname⟩
    · rw [hline]
    · have hne : key' ≠ key := by rintro rfl; exact hname hkey
      have hempty : "" ≠ key := by rintro rfl; obtain ⟨c, hc, -⟩ := hkey; cases hc
      rw [hline, hsplit, Option.toList_some, Option.toList_some, Ordered.lookup_singleton_of_ne _ hne,
        Ordered.lookup_singleton_of_ne _ hempty]

/-- Two readings of lines that agree on a key line by line agree on its last value. -/
theorem lookup_filterMap_congr {key : String} {f g : List Char → Option (String × String)}
    (h : ∀ line, Ordered.lookup key (f line).toList = Ordered.lookup key (g line).toList)
    (ls : List (List Char)) :
    Ordered.lookup key (ls.filterMap f).reverse = Ordered.lookup key (ls.filterMap g).reverse := by
  have of_cons (f : List Char → Option (String × String)) (l : List Char) (ls : List (List Char)) :
      ((l :: ls).filterMap f).reverse = (ls.filterMap f).reverse ++ (f l).toList := by
    rw [List.filterMap_cons]
    cases f l with
    | none => rw [Option.toList_none, List.append_nil]
    | some e => rw [List.reverse_cons, Option.toList_some]
  induction ls with
  | nil => rfl
  | cons l ls ih => rw [of_cons, of_cons, Ordered.lookup_append, Ordered.lookup_append, ih, h l]

/-- **Properties.** Under a name a properties file has the last value that its lines assign to it. -/
theorem get?_properties {key : String} (hkey : IsName key) (content : String) :
    (properties content).get? key = lastAssigned? key content := by
  rw [properties, Ordered.get?_ofList]
  exact lookup_filterMap_congr (lookup_lineAssignment? hkey) _

end ClusterPlan.SessionRecord
