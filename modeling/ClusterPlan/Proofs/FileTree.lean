import ClusterPlan.Files.Tree
import ClusterPlan.Proofs.Path
import Mathlib.Data.List.Perm.Subperm
import Mathlib.Data.List.ProdSigma

/-!
# Following and removing links

`FileTree.Leads` says without a limit which way is gone by names that are followed one by one, and how many links
are followed. Where `locate` gets somewhere, names lead there (`leads_of_locate`); and where names lead somewhere,
the path without links is the one of that place (`unlinkFrom_of_leads`): the links that are met while a link is
followed have fewer links in what they stand for, so it is not met again. Hence what `locate` finds `resolve`
writes (`resolve_of_locate`), and a path that leads somewhere is resolved to itself exactly if it has no links in
it (`resolve_eq_self_iff`). A directory that cannot be searched hides the links in it from both, but only
`locate` fails there.
-/

namespace ClusterPlan.FileTree

variable {t : FileTree} {directory : List String}

/-- A name that is looked up in a directory. -/
structure Plain (name : String) : Prop where
  ne_self : ¬ (name = "." || name = "") = true
  ne_up : name ≠ ".."

/-- A name that is not looked up stays at a place or leads one up from it. -/
theorem self_or_up_or_plain (name : String) :
    (name = "." || name = "") = true ∨ name = ".." ∨ Plain name := by
  by_cases hself : (name = "." || name = "") = true
  · exact .inl hself
  by_cases hup : name = ".."
  · exact .inr (.inl hup)
  exact .inr (.inr ⟨hself, hup⟩)

/-- A name that is looked up and has no slash is a name of a path. -/
theorem Plain.isName {name : String} (h : Plain name) (hslash : '/' ∉ name.toList) : Path.IsName name := by
  have hself := h.ne_self
  simp only [Bool.or_eq_true, decide_eq_true_eq, not_or] at hself
  exact ⟨hself.2, hself.1, hslash⟩

/-! ## What can be looked up -/

/-- Names can be looked up at a directory that can be searched. -/
theorem isOpen_iff {place : List String} : t.isOpen place = true ↔ t.node? place = some (.directory true) :=
  beq_iff_eq

/-- The root is never barred. -/
theorem isClosed_nil (t : FileTree) : t.isClosed [] = false := rfl

/-- Names are passed when every directory in front of each of them, and the last one, can be searched. -/
theorem passes_iff {place names : List String} :
    t.passes place names = true ↔ ∀ front, front <+: names → t.isOpen (place ++ front) = true := by
  induction names generalizing place with
  | nil => simp [passes]
  | cons name names ih =>
    rw [passes, Bool.and_eq_true, ih]
    constructor
    · rintro ⟨hplace, h⟩ front hfront
      cases front with
      | nil => rwa [List.append_nil]
      | cons name' front =>
        obtain ⟨rfl, hbelow⟩ := List.cons_prefix_cons.1 hfront
        rw [List.append_cons]
        exact h front hbelow
    · intro h
      refine ⟨by simpa using h [] (List.nil_prefix), fun front hfront => ?_⟩
      rw [← List.append_cons]
      exact h (name :: front) (List.cons_prefix_cons.2 ⟨rfl, hfront⟩)

/-- At the end of a way names can be looked up when every directory on it can be searched. -/
theorem isVisible_iff {w : Way} : t.isVisible w = true ↔
    w.barred = false ∧ ∀ front, front <+: w.below → t.isOpen (w.floor ++ front) = true := by
  rw [isVisible, Bool.and_eq_true, Bool.not_eq_true', passes_iff]

/-- A link is seen where names can be looked up and the name is one of a link. -/
theorem linkAt?_eq_some_iff {w : Way} {name target : String} : t.linkAt? w name = some target ↔
    t.isVisible w = true ∧ t.node? (w.place ++ [name]) = some (.link target) := by
  unfold linkAt?
  split
  · next hvisible hnode => simp [hvisible, hnode]
  · next h =>
    constructor
    · nofun
    · rintro ⟨hvisible, hnode⟩
      exact absurd hnode (h target hvisible)

/-- What is no link is none when it is looked up. -/
theorem linkAt?_eq_none {w : Way} {name : String}
    (h : ∀ target, t.node? (w.place ++ [name]) ≠ some (.link target)) : t.linkAt? w name = none :=
  Option.eq_none_iff_forall_ne_some.2 fun target htarget => h target (linkAt?_eq_some_iff.1 htarget).2

namespace Way

/-- The way from the root that goes nowhere ends there. -/
@[simp] theorem place_root : root.place = [] := rfl

/-- A path starts at the root or at the current directory. -/
@[simp] theorem place_start (directory : List String) (p : Path) :
    (start directory p).place = if p.isAbsolute then [] else directory := by
  unfold start
  split
  · rfl
  · exact List.append_nil _

/-- A way that goes down by a name ends at that name. -/
@[simp] theorem place_enter (w : Way) (name : String) : (w.enter name).place = w.place ++ [name] :=
  (List.append_assoc ..).symm

/-- The name that a way goes down at last is one way. -/
theorem enter_inj {w w' : Way} {name name' : String} (h : w.enter name = w'.enter name') : w = w' := by
  obtain ⟨absolute, barred, floor, below⟩ := w
  obtain ⟨absolute', barred', floor', below'⟩ := w'
  simp only [enter, mk.injEq] at h
  obtain ⟨rfl, rfl, rfl, h⟩ := h
  rw [(List.append_inj' h rfl).1]

end Way

/-- What a link stands for starts at the root or where the link is. -/
theorem place_linkStart (w : Way) (target : String) :
    (linkStart .root w target).place = linkStart [] w.place target := by
  unfold linkStart
  split <;> rfl

/-- What holds at the root and at a place holds where a link is followed from there. -/
theorem linkStart_induction {w : Way} {P : Way → Prop} (hroot : P .root) (h : P w) (target : String) :
    P (linkStart .root w target) := by
  unfold linkStart
  split
  · exact hroot
  · exact h

/-! ## Where names lead -/

/-- The names lead from the first way to the second, with that many links in between. -/
inductive Leads (t : FileTree) : Nat → Way → List String → Way → Prop
  | done (w : Way) : Leads t 0 w [] w
  | stay {n : Nat} {w w' : Way} {rest : List String} {name : String} :
      (name = "." || name = "") = true → Leads t n w rest w' → Leads t n w (name :: rest) w'
  | up {n : Nat} {w w' : Way} {rest : List String} :
      Leads t n (t.up w) rest w' → Leads t n w (".." :: rest) w'
  | enter {n : Nat} {w w' : Way} {rest : List String} {name : String} : Plain name →
      t.linkAt? w name = none → Leads t n (w.enter name) rest w' → Leads t n w (name :: rest) w'
  | link {m n : Nat} {w mid w' : Way} {rest : List String} {name target : String} : Plain name →
      t.linkAt? w name = some target →
      Leads t m (linkStart .root w target) (Path.segments target) mid →
      Leads t n mid rest w' → Leads t (n + m + 1) w (name :: rest) w'

/-- Names lead one way only, over the same links. -/
theorem Leads.unique {n n' : Nat} {names : List String} {w q q' : Way} (h : Leads t n w names q)
    (h' : Leads t n' w names q') : n = n' ∧ q = q' := by
  induction h generalizing n' q' with
  | done => cases h'; exact ⟨rfl, rfl⟩
  | stay hname _ ih =>
    cases h' with
    | stay _ h' => exact ih h'
    | up => exact absurd hname (by decide)
    | enter hp => exact absurd hname hp.ne_self
    | link hp => exact absurd hname hp.ne_self
  | up _ ih =>
    cases h' with
    | stay hname => exact absurd hname (by decide)
    | up h' => exact ih h'
    | enter hp => exact absurd rfl hp.ne_up
    | link hp => exact absurd rfl hp.ne_up
  | enter hp hnone _ ih =>
    cases h' with
    | stay hname => exact absurd hname hp.ne_self
    | up => exact absurd rfl hp.ne_up
    | enter _ _ h' => exact ih h'
    | link _ hlink => cases hnone.symm.trans hlink
  | link hp hlink _ _ ihm ih =>
    cases h' with
    | stay hname => exact absurd hname hp.ne_self
    | up => exact absurd rfl hp.ne_up
    | enter _ hnone => cases hnone.symm.trans hlink
    | link _ hlink' hm' h' =>
      obtain rfl := Option.some.inj (hlink.symm.trans hlink')
      obtain ⟨rfl, rfl⟩ := ihm hm'
      obtain ⟨rfl, rfl⟩ := ih h'
      exact ⟨rfl, rfl⟩

/-- Names that lead somewhere can be followed in two parts. -/
theorem Leads.append_inv {n : Nat} {w q : Way} {xs ys : List String} (h : Leads t n w (xs ++ ys) q) :
    ∃ m k mid, Leads t m w xs mid ∧ Leads t k mid ys q ∧ n = k + m := by
  induction xs generalizing n w with
  | nil => exact ⟨0, n, w, .done w, h, rfl⟩
  | cons x xs ih =>
    rw [List.cons_append] at h
    cases h with
    | stay hname h =>
      obtain ⟨m, k, mid, hm, hk, rfl⟩ := ih h
      exact ⟨m, k, mid, .stay hname hm, hk, rfl⟩
    | up h =>
      obtain ⟨m, k, mid, hm, hk, rfl⟩ := ih h
      exact ⟨m, k, mid, .up hm, hk, rfl⟩
    | enter hp hnone h =>
      obtain ⟨m, k, mid, hm, hk, rfl⟩ := ih h
      exact ⟨m, k, mid, .enter hp hnone hm, hk, rfl⟩
    | link hp hlink hcontent h =>
      obtain ⟨m, k, mid, hm, hk, rfl⟩ := ih h
      exact ⟨_, k, mid, .link hp hlink hcontent hm, hk, by omega⟩

/-- What every step of a way keeps, the way keeps. -/
theorem Leads.preserves {P : Way → Prop} (hroot : P .root) (hup : ∀ w, P w → P (t.up w))
    (henter : ∀ w name, P w → P (w.enter name)) {n : Nat} {w w' : Way} {names : List String}
    (h : Leads t n w names w') (hw : P w) : P w' := by
  induction h with
  | done => exact hw
  | stay _ _ ih => exact ih hw
  | up _ ih => exact ih (hup _ hw)
  | enter _ _ _ ih => exact ih (henter _ _ hw)
  | link _ _ _ _ ihm ih => exact ih (ihm (linkStart_induction hroot hw _))

/-- A name that is not looked up can be left out. -/
theorem Leads.of_stay {n : Nat} {w w' : Way} {rest : List String} {name : String}
    (hname : (name = "." || name = "") = true) (h : Leads t n w (name :: rest) w') : Leads t n w rest w' := by
  cases h with
  | stay _ h => exact h
  | up => exact absurd hname (by decide)
  | enter hp => exact absurd hname hp.ne_self
  | link hp => exact absurd hname hp.ne_self

/-- What is looked up when a path is followed leads where its names lead. -/
theorem Leads.names_of_steps {n : Nat} {w w' : Way} {p : Path} (h : Leads t n w p.steps w') :
    Leads t n w p.names w' := by
  unfold Path.steps at h
  split at h
  · next hempty =>
    simp only [Bool.and_eq_true, decide_eq_true_eq, List.isEmpty_iff] at hempty
    exact hempty.2 ▸ h.of_stay (by decide)
  · exact h

/-! ## Ways that the operating system goes -/

/-- A way that the operating system can have gone: every directory on it but the last one can be searched. -/
structure Reached (t : FileTree) (w : Way) : Prop where
  unbarred : w.barred = false
  isOpen : ∀ front, front <+: w.below → front ≠ w.below → t.isOpen (w.floor ++ front) = true

/-- No directory is passed where a way starts. -/
theorem Reached.of_nil {w : Way} (h : w.barred = false) (hnil : w.below = []) : Reached t w :=
  ⟨h, fun _ hfront hne => absurd (List.prefix_nil.1 (hnil ▸ hfront)) (hnil ▸ hne)⟩

/-- The way of a path starts like this. -/
theorem Reached.start (directory : List String) (p : Path) : Reached t (.start directory p) := by
  unfold Way.start
  split <;> exact .of_nil rfl rfl

/-- At the end of such a way names can be looked up, if it is at a directory that can be searched. -/
theorem Reached.isVisible {w : Way} (h : Reached t w) (hopen : t.isOpen w.place = true) :
    t.isVisible w = true := by
  refine isVisible_iff.2 ⟨h.unbarred, fun front hfront => ?_⟩
  by_cases hne : front = w.below
  · exact hne ▸ hopen
  · exact h.isOpen front hfront hne

/-- The operating system goes down from a directory that can be searched. -/
theorem Reached.enter {w : Way} (h : Reached t w) (hopen : t.isOpen w.place = true) (name : String) :
    Reached t (w.enter name) where
  unbarred := h.unbarred
  isOpen front hfront hne := by
    rcases List.prefix_concat_iff.1 hfront with hfront | hfront
    · exact absurd hfront hne
    · exact (isVisible_iff.1 (h.isVisible hopen)).2 front hfront

/-- One name up from such a way is one up from its place. -/
theorem place_up (t : FileTree) (w : Way) : (t.up w).place = w.place.dropLast := by
  unfold up Way.place
  split
  · next hnil => simp [List.isEmpty_iff.1 hnil]
  · next hne => exact (List.dropLast_append_of_ne_nil (by simpa using hne)).symm

/-- It goes up from anything that is no barred directory. -/
theorem Reached.up {w : Way} (h : Reached t w) (hclosed : t.isClosed w.place = false) :
    Reached t (t.up w) := by
  unfold FileTree.up
  split
  · next hnil =>
    rw [List.isEmpty_iff] at hnil
    refine .of_nil ?_ hnil
    rw [Way.place, hnil, List.append_nil] at hclosed
    simp [h.unbarred, hclosed]
  · next hne =>
    refine ⟨h.unbarred, fun front hfront _ => ?_⟩
    refine h.isOpen front (hfront.trans (List.dropLast_prefix _)) fun hsame => ?_
    have hlength := hfront.length_le
    rw [hsame, List.length_dropLast] at hlength
    have hpos := List.length_pos_iff.2 fun hnil : w.below = [] => hne (List.isEmpty_iff.2 hnil)
    omega

/-- It starts again at the root for what some links stand for. -/
theorem Reached.linkStart {w : Way} (h : Reached t w) (target : String) :
    Reached t (linkStart .root w target) :=
  linkStart_induction (.of_nil rfl rfl) h target

/-- One step of the operating system that ends somewhere: a name is passed over, leads up from a directory that can
be searched, or is looked up in one, where it leads down, ends at a file or goes on behind a link. -/
theorem walk_cases {next : List String → List String → Except FileFault (List String × FileNode)}
    {place rest : List String} {name : String} {r : List String × FileNode}
    (h : t.walk next place (name :: rest) = .ok r) :
    ((name = "." || name = "") = true ∧ t.walk next place rest = .ok r) ∨
    (name = ".." ∧ t.isClosed place = false ∧ t.walk next place.dropLast rest = .ok r) ∨
    Plain name ∧ t.isOpen place = true ∧
      ((∃ opened, t.node? (place ++ [name]) = some (.directory opened) ∧
          t.walk next (place ++ [name]) rest = .ok r) ∨
        (∃ content readable, t.node? (place ++ [name]) = some (.file content readable) ∧ rest = [] ∧
          r = (place ++ [name], .file content readable)) ∨
        ∃ target, t.node? (place ++ [name]) = some (.link target) ∧
          next (FileTree.linkStart [] place target) (Path.segments target ++ rest) = .ok r) := by
  unfold walk at h
  split at h
  · next hempty => exact .inl ⟨by simp [hempty], h⟩
  next hempty =>
  split at h
  · cases h
  next hclosed =>
  split at h
  · next hdot => exact .inl ⟨by simp [hdot], h⟩
  next hdot =>
  split at h
  · next hup => exact .inr (.inl ⟨hup, by simpa using hclosed, h⟩)
  next hup =>
  split at h
  · cases h
  split at h
  · cases h
  next hopen =>
  refine .inr (.inr ⟨⟨by simp [hdot, hempty], hup⟩, by simpa using hopen, ?_⟩)
  split at h
  · cases h
  · next hnode => exact .inl ⟨_, hnode, h⟩
  · next hnode =>
    split at h
    · next hrest =>
      cases h
      exact .inr (.inl ⟨_, _, hnode, List.isEmpty_iff.1 hrest, rfl⟩)
    · cases h
  · next hnode => exact .inr (.inr ⟨_, hnode, h⟩)

/-- Following names as the operating system does leads where they lead, if it does so behind the first
link. -/
theorem leads_of_walk {next : List String → List String → Except FileFault (List String × FileNode)}
    {w : Way} {names q : List String} {node : FileNode}
    (hnext : ∀ w rest, Reached t w → next w.place rest = .ok (q, node) →
      ∃ n w', Leads t n w rest w' ∧ Reached t w' ∧ w'.place = q ∧ t.node? q = some node)
    (hw : Reached t w) (h : t.walk next w.place names = .ok (q, node)) :
    ∃ n w', Leads t n w names w' ∧ Reached t w' ∧ w'.place = q ∧ t.node? q = some node := by
  induction names generalizing w with
  | nil =>
    unfold walk at h
    split at h
    · next hnode =>
      cases h
      exact ⟨0, w, .done w, hw, rfl, hnode⟩
    · cases h
  | cons name rest ih =>
    obtain ⟨hself, h⟩ | ⟨rfl, hclosed, h⟩ | ⟨hplain, hopen, hfound⟩ := walk_cases h
    · obtain ⟨n, w', hn, hq⟩ := ih hw h
      exact ⟨n, w', .stay hself hn, hq⟩
    · rw [← place_up t] at h
      obtain ⟨n, w', hn, hq⟩ := ih (hw.up hclosed) h
      exact ⟨n, w', .up hn, hq⟩
    · rw [← Way.place_enter] at hfound
      obtain ⟨_, hnode, h⟩ | ⟨_, _, hnode, rfl, hend⟩ | ⟨target, hnode, h⟩ := hfound
      · have hnone : t.linkAt? w name = none := linkAt?_eq_none (by rw [← Way.place_enter, hnode]; nofun)
        obtain ⟨n, w', hn, hq⟩ := ih (hw.enter hopen name) h
        exact ⟨n, w', .enter hplain hnone hn, hq⟩
      · have hnone : t.linkAt? w name = none := linkAt?_eq_none (by rw [← Way.place_enter, hnode]; nofun)
        cases hend
        exact ⟨0, w.enter name, .enter hplain hnone (.done _), hw.enter hopen name, rfl, hnode⟩
      · rw [← place_linkStart] at h
        obtain ⟨n, w', hn, hq⟩ := hnext _ _ (hw.linkStart target) h
        obtain ⟨m, k, mid, hm, hk, -⟩ := hn.append_inv
        rw [Way.place_enter] at hnode
        exact ⟨_, w', .link hplain (linkAt?_eq_some_iff.2 ⟨hw.isVisible hopen, hnode⟩) hm hk, hq⟩

/-- So it does behind any number of links. -/
theorem leads_of_locateFrom {links : Nat} {w : Way} {names q : List String} {node : FileNode}
    (hw : Reached t w) (h : t.locateFrom links w.place names = .ok (q, node)) :
    ∃ n w', Leads t n w names w' ∧ Reached t w' ∧ w'.place = q ∧ t.node? q = some node := by
  induction links generalizing w names with
  | zero =>
    rw [locateFrom] at h
    exact leads_of_walk (fun _ _ _ h => by cases h) hw h
  | succ links ih => exact leads_of_walk (fun _ _ => ih) hw h

/-! ## Ways from the root and from the current directory -/

/-- A way from the root, or from a directory above the current one, and then it is barred only if a directory
on the way to the current one cannot be searched. -/
inductive Grounded (t : FileTree) (directory : List String) (w : Way) : Prop
  | absolute : w.absolute = true → w.barred = false → w.floor = [] → Grounded t directory w
  | relative : w.absolute = false → w.floor <+: directory →
      (w.barred = true → ∃ place, place <+: directory ∧ t.isClosed place = true) → Grounded t directory w

/-- The root is the root. -/
theorem Grounded.root : Grounded t directory .root := .absolute rfl rfl rfl

/-- A path starts at the root or at the current directory. -/
theorem Grounded.start (t : FileTree) (directory : List String) (p : Path) :
    Grounded t directory (.start directory p) := by
  unfold Way.start
  split
  · exact .root
  · exact .relative rfl List.prefix_rfl nofun

/-- Up from the current directory there are only the directories above it, and one that cannot be searched
bars the way. -/
theorem Grounded.up {w : Way} (h : Grounded t directory w) : Grounded t directory (t.up w) := by
  unfold FileTree.up
  split
  · cases h with
    | absolute habsolute hbarred hfloor =>
      exact .absolute habsolute (by simp [hbarred, hfloor, isClosed_nil]) (by simp [hfloor])
    | relative habsolute hfloor hbarred =>
      refine .relative habsolute ((List.dropLast_prefix _).trans hfloor) fun h => ?_
      rcases Bool.or_eq_true_iff.1 h with h | h
      · exact hbarred h
      · exact ⟨w.floor, hfloor, h⟩
  · cases h with
    | absolute habsolute hbarred hfloor => exact .absolute habsolute hbarred hfloor
    | relative habsolute hfloor hbarred => exact .relative habsolute hfloor hbarred

/-- A way that goes down starts where it did. -/
theorem Grounded.enter {w : Way} (h : Grounded t directory w) (name : String) :
    Grounded t directory (w.enter name) := by
  cases h with
  | absolute habsolute hbarred hfloor => exact .absolute habsolute hbarred hfloor
  | relative habsolute hfloor hbarred => exact .relative habsolute hfloor hbarred

/-- So names lead from such a way to such a way, whatever links they meet. -/
theorem Leads.grounded {n : Nat} {w w' : Way} {names : List String} (h : Leads t n w names w')
    (hw : Grounded t directory w) : Grounded t directory w' :=
  h.preserves .root (fun _ => .up) (fun _ name h => h.enter name) hw

/-- A way from the root stays one. -/
theorem Leads.absolute {n : Nat} {w w' : Way} {names : List String} (h : Leads t n w names w')
    (hw : w.absolute = true) : w'.absolute = true := by
  refine h.preserves (P := fun w => w.absolute = true) rfl (fun w hw => ?_) (fun _ _ hw => hw) hw
  unfold FileTree.up
  split <;> exact hw

/-- Which of the directories above the current one a way starts from, and where it leads. -/
def Way.mark (directory : List String) (w : Way) : Nat × List String :=
  (if w.absolute then directory.length + 1 else w.floor.length, w.place)

/-- Of the ways that are not barred there is one with a mark. -/
theorem Grounded.mark_inj {w w' : Way} (h : Grounded t directory w) (h' : Grounded t directory w')
    (hbarred : w.barred = false) (hbarred' : w'.barred = false)
    (hmark : w.mark directory = w'.mark directory) : w = w' := by
  obtain ⟨hstart, hplace⟩ := Prod.mk.inj hmark
  have hsame : w.absolute = w'.absolute ∧ w.floor = w'.floor := by
    cases h with
    | absolute habsolute _ hfloor =>
      cases h' with
      | absolute habsolute' _ hfloor' => exact ⟨habsolute.trans habsolute'.symm, hfloor.trans hfloor'.symm⟩
      | relative habsolute' hfloor' =>
        simp only [habsolute, habsolute', if_true, Bool.false_eq_true, if_false] at hstart
        have := hfloor'.length_le
        omega
    | relative habsolute hfloor =>
      cases h' with
      | absolute habsolute' _ hfloor' =>
        simp only [habsolute, habsolute', if_true, Bool.false_eq_true, if_false] at hstart
        have := hfloor.length_le
        omega
      | relative habsolute' hfloor' =>
        simp only [habsolute, habsolute', Bool.false_eq_true, if_false] at hstart
        rw [List.prefix_iff_eq_take.1 hfloor, List.prefix_iff_eq_take.1 hfloor', hstart]
        exact ⟨habsolute.trans habsolute'.symm, rfl⟩
  have hbelow : w.below = w'.below := by
    rw [Way.place, Way.place, hsame.2] at hplace
    exact List.append_cancel_left hplace
  exact Way.ext hsame.1 (hbarred.trans hbarred'.symm) hsame.2 hbelow

/-! ## Removing links -/

/-- A link that is looked up on a way and has at least so many links in what it stands for. -/
inductive Busy (t : FileTree) (directory : List String) (n : Nat) : Way → Prop
  | intro {w : Way} {name target : String} {m : Nat} {mid : Way} : Grounded t directory w →
      t.linkAt? w name = some target →
      Leads t m (linkStart .root w target) (Path.segments target) mid → n ≤ m →
      Busy t directory n (w.enter name)

/-- What stands at a place that is not the root is an entry of the tree. -/
theorem mem_of_node? {place : List String} {node : FileNode} (hp : place ≠ [])
    (h : t.node? place = some node) : place ∈ t.nodes.map Prod.fst := by
  rw [node?, if_neg (by simpa using hp)] at h
  obtain ⟨front, back, hnodes, -⟩ := List.lookup_eq_some_iff.1 h
  rw [hnodes]
  simp

/-- What has many links in it has at least fewer. -/
theorem Busy.mono {m n : Nat} {here : Way} (h : Busy t directory n here) (hmn : m ≤ n) :
    Busy t directory m here := by
  obtain ⟨hw, hlink, hk, hn⟩ := h
  exact ⟨hw, hlink, hk, hmn.trans hn⟩

/-- A link with fewer links in what it stands for is another one. -/
theorem Busy.ne {m n : Nat} {here w mid : Way} {name target : String} (h : Busy t directory n here)
    (hlink : t.linkAt? w name = some target)
    (hm : Leads t m (linkStart .root w target) (Path.segments target) mid) (hmn : m < n) :
    here ≠ w.enter name := by
  obtain @⟨w', name', target', k, mid', -, hlink', hk, hn⟩ := h
  intro hsame
  obtain rfl := Way.enter_inj hsame
  obtain rfl : name' = name := by
    have hbelow := congrArg Way.below hsame
    exact List.singleton_inj.1 (List.append_cancel_left hbelow)
  obtain rfl := Option.some.inj (hlink.symm.trans hlink')
  obtain ⟨rfl, -⟩ := hm.unique hk
  omega

/-- Different links that are looked up are never more than the limit. -/
theorem length_le_of_busy {n : Nat} {followed : List Way} (hfollowed : followed.Nodup)
    (hbusy : ∀ here ∈ followed, Busy t directory n here) :
    followed.length ≤ (directory.length + 2) * t.nodes.length := by
  have hgrounded {here : Way} (h : Busy t directory n here) :
      Grounded t directory here ∧ here.barred = false ∧ here.place ∈ t.nodes.map Prod.fst := by
    obtain ⟨hw, hlink, -, -⟩ := h
    obtain ⟨hvisible, hnode⟩ := linkAt?_eq_some_iff.1 hlink
    rw [Way.place_enter]
    exact ⟨hw.enter _, (isVisible_iff.1 hvisible).1, mem_of_node? (by simp) hnode⟩
  have hnodup : (followed.map (Way.mark directory)).Nodup := by
    refine hfollowed.map_on fun here hhere here' hhere' hmark => ?_
    obtain ⟨hw, hbarred, -⟩ := hgrounded (hbusy here hhere)
    obtain ⟨hw', hbarred', -⟩ := hgrounded (hbusy here' hhere')
    exact hw.mark_inj hw' hbarred hbarred' hmark
  have hsubset : followed.map (Way.mark directory) ⊆
      List.range (directory.length + 2) ×ˢ t.nodes.map Prod.fst := by
    intro mark hmark
    obtain ⟨here, hhere, rfl⟩ := List.mem_map.1 hmark
    obtain ⟨hw, -, hplace⟩ := hgrounded (hbusy here hhere)
    refine List.mem_product.2 ⟨List.mem_range.2 ?_, hplace⟩
    cases hw with
    | absolute habsolute => simp [habsolute]
    | relative habsolute hfloor =>
      have := hfloor.length_le
      simp only [habsolute, Bool.false_eq_true, if_false]
      omega
  have hle := (List.subperm_of_subset hnodup hsubset).length_le
  rwa [List.length_map, List.length_product, List.length_range, List.length_map] at hle

section
variable {follow : List Way → Way → List String → Unlinked} {followed : List Way} {w : Way}
  {rest : List String} {name : String}

/-- The name of a directory itself and the empty one lead nowhere. -/
theorem unlink_self (hname : (name = "." || name = "") = true) :
    t.unlink follow followed w (name :: rest) = t.unlink follow followed w rest := by
  rw [unlink, if_pos hname]

/-- The name of the directory above leads there. -/
theorem unlink_up : t.unlink follow followed w (".." :: rest) = t.unlink follow followed (t.up w) rest := by
  rw [unlink, if_neg (by decide), if_pos rfl]

/-- A name that is no link is gone down by. -/
theorem unlink_enter (hp : Plain name) (hnone : t.linkAt? w name = none) :
    t.unlink follow followed w (name :: rest) = t.unlink follow followed (w.enter name) rest := by
  rw [unlink, if_neg hp.ne_self, if_neg hp.ne_up, hnone]

/-- A link is replaced by what it stands for, unless it is being followed already. -/
theorem unlink_link {target : String} (hp : Plain name) (hlink : t.linkAt? w name = some target) :
    t.unlink follow followed w (name :: rest) =
      if w.enter name ∈ followed then continued w.absolute (w.enter name).text rest
      else
        match follow (w.enter name :: followed) (linkStart .root w target) (Path.segments target) with
        | .all mid => t.unlink follow followed mid rest
        | .stuck absolute path => continued absolute path rest := by
  rw [unlink, if_neg hp.ne_self, if_neg hp.ne_up, hlink]
  rfl

end

/-- Names that lead somewhere are replaced by the way, if that is so for what the links on it stand for. -/
theorem unlink_of_leads {follow : List Way → Way → List String → Unlinked} {followed : List Way}
    {limit n : Nat} {w w' : Way} {names : List String}
    (hlink : ∀ {m w name target mid}, Grounded t directory w → t.linkAt? w name = some target → m < limit →
      Leads t m (linkStart .root w target) (Path.segments target) mid →
      w.enter name ∉ followed ∧ follow (w.enter name :: followed) (linkStart .root w target)
        (Path.segments target) = .all mid)
    (hn : n ≤ limit) (hw : Grounded t directory w) (h : Leads t n w names w') :
    t.unlink follow followed w names = .all w' := by
  induction h with
  | done => rfl
  | stay hname _ ih => rw [unlink_self hname, ih hn hw]
  | up _ ih => rw [unlink_up, ih hn hw.up]
  | enter hp hnone _ ih => rw [unlink_enter hp hnone, ih hn (hw.enter _)]
  | link hp htarget hm _ _ ih =>
    obtain ⟨hnew, hfollow⟩ := hlink hw htarget (by omega) hm
    rw [unlink_link hp htarget, if_neg hnew, hfollow]
    exact ih (by omega) (hm.grounded (linkStart_induction .root hw _))

/-- Names that lead somewhere are replaced by the way. The links that are being followed are all different, so
they are never more than the limit. -/
theorem unlinkFrom_of_leads {depth n : Nat} {followed : List Way} {w w' : Way} {names : List String}
    (hfollowed : followed.Nodup) (hbusy : ∀ here ∈ followed, Busy t directory n here)
    (hdepth : (directory.length + 2) * t.nodes.length < depth + followed.length)
    (hw : Grounded t directory w) (h : Leads t n w names w') :
    t.unlinkFrom depth followed w names = .all w' := by
  induction depth generalizing followed n w names w' with
  | zero =>
    have hle := length_le_of_busy hfollowed hbusy
    omega
  | succ depth ih =>
    rw [unlinkFrom]
    refine unlink_of_leads ?_ (Nat.le_refl n) hw h
    intro m w name target mid hw hlink hmn hm
    have hnew : w.enter name ∉ followed := fun hmem => (hbusy _ hmem).ne hlink hm hmn rfl
    refine ⟨hnew, ih (List.nodup_cons.2 ⟨hnew, hfollowed⟩) ?_ ?_ (linkStart_induction .root hw _) hm⟩
    · rw [List.forall_mem_cons]
      exact ⟨⟨hw, hlink, hm, Nat.le_refl m⟩, fun here hhere => (hbusy here hhere).mono (by omega)⟩
    · rw [List.length_cons]
      omega

/-- Names that lead somewhere are replaced by the way when a path is resolved. -/
theorem unlinkFrom_depthLimit_of_leads {n : Nat} {w w' : Way} {names : List String}
    (hw : Grounded t directory w) (h : Leads t n w names w') :
    t.unlinkFrom (t.depthLimit directory) [] w names = .all w' :=
  unlinkFrom_of_leads List.nodup_nil (fun _ => nofun) (Nat.lt_succ_self _) hw h

/-! ## Places without links -/

/-- A place in names that are looked up, without a link on the way. -/
structure Direct (t : FileTree) (place : List String) : Prop where
  names : ∀ name ∈ place, Path.IsName name ∧ name ≠ ".."
  linkFree : ∀ front, front <+: place → ∀ target, t.node? front ≠ some (.link target)

/-- There is no link at the root. -/
theorem Direct.nil : Direct t [] where
  names := nofun
  linkFree := by
    intro front hfront target
    obtain rfl := List.prefix_nil.1 hfront
    simp [node?]

/-- There is none on the way to a place without links. -/
theorem Direct.of_prefix {front place : List String} (h : Direct t place) (hfront : front <+: place) :
    Direct t front where
  names name hname := h.names name (hfront.subset hname)
  linkFree _ hfront' := h.linkFree _ (hfront'.trans hfront)

/-- A way in names that are looked up, without a link that has been seen on it. -/
structure Clear (t : FileTree) (w : Way) : Prop where
  names : ∀ name ∈ w.below, Path.IsName name ∧ name ≠ ".."
  floor : Direct t w.floor
  linkFree : ∀ front name, front ++ [name] <+: w.below → t.linkAt? { w with below := front } name = none

/-- Where a way starts at a place without links, none has been seen. -/
theorem Clear.of_nil {w : Way} (hfloor : Direct t w.floor) (h : w.below = []) : Clear t w := by
  refine ⟨by rw [h]; nofun, hfloor, fun front name hfront => ?_⟩
  rw [h, List.prefix_nil] at hfront
  cases (List.append_eq_nil_iff.1 hfront).2

/-- None is seen at the root. -/
theorem Clear.root : Clear t .root := .of_nil .nil rfl

/-- None is seen at the current directory either, if there is none on the way to it. -/
theorem Clear.start (h : Direct t directory) (p : Path) : Clear t (.start directory p) := by
  unfold Way.start
  split
  · exact .root
  · exact .of_nil h rfl

/-- Going up shows no other names. -/
theorem Clear.up {w : Way} (h : Clear t w) : Clear t (t.up w) := by
  unfold FileTree.up
  split
  · next hnil => exact .of_nil (h.floor.of_prefix (List.dropLast_prefix _)) (List.isEmpty_iff.1 hnil)
  · have hshorter := List.dropLast_prefix w.below
    exact ⟨fun name hname => h.names name (hshorter.subset hname), h.floor,
      fun front name hfront => h.linkFree front name (hfront.trans hshorter)⟩

/-- Going down by a name that is no link shows no link. -/
theorem Clear.enter {w : Way} {name : String} (h : Clear t w) (hp : Plain name)
    (hslash : '/' ∉ name.toList) (hnone : t.linkAt? w name = none) : Clear t (w.enter name) where
  names n hn := by
    rcases List.mem_append.1 hn with hn | hn
    · exact h.names n hn
    · obtain rfl := List.mem_singleton.1 hn
      exact ⟨hp.isName hslash, hp.ne_up⟩
  floor := h.floor
  linkFree front n hfront := by
    rcases List.prefix_concat_iff.1 hfront with hsame | hfront
    · obtain ⟨rfl, hname⟩ := List.append_inj' hsame rfl
      obtain rfl := List.singleton_inj.1 hname
      exact hnone
    · exact h.linkFree front n hfront

/-- A way in names that are looked up ends at a place in such names. -/
theorem Clear.isName {w : Way} (h : Clear t w) : ∀ name ∈ w.place, Path.IsName name ∧ name ≠ ".." :=
  fun name hname => (List.mem_append.1 hname).elim (h.floor.names name) (h.names name)

/-- The operating system gets to a place without links only on a way without them. -/
theorem Clear.direct {w : Way} (h : Clear t w) (hw : Reached t w) : Direct t w.place where
  names := h.isName
  linkFree front hfront target hlink := by
    obtain ⟨back, hplace⟩ := hfront
    rcases List.append_eq_append_iff.1 hplace with ⟨rest, hfloor, -⟩ | ⟨below, rfl, hrest⟩
    · exact h.floor.linkFree front ⟨rest, hfloor.symm⟩ target hlink
    have hbelow : below <+: w.below := ⟨back, hrest.symm⟩
    rcases List.eq_nil_or_concat' below with rfl | ⟨below, name, rfl⟩
    · exact h.floor.linkFree _ (by simp) target hlink
    -- names can be looked up in front of the last one, so it would have been seen to be a link
    have hvisible : t.isVisible { w with below := below } = true :=
      isVisible_iff.2 ⟨hw.unbarred, fun front hfront =>
        hw.isOpen front (hfront.trans ((List.prefix_append ..).trans hbelow)) fun hsame => by
          have hlength := (hbelow.trans (hsame ▸ hfront)).length_le
          rw [List.length_append] at hlength
          exact absurd hlength (by simp)⟩
    rw [← List.append_assoc] at hlink
    cases (h.linkFree below name hbelow).symm.trans (linkAt?_eq_some_iff.2 ⟨hvisible, hlink⟩)

/-- A way without links, or a text from the root that remains where a link leads back to itself. -/
def Written (t : FileTree) : Unlinked → Prop
  | .all way => Clear t way
  | .stuck _ path => path.toList.head? = some '/'

/-- The text of a way begins with a slash. -/
theorem head?_text (w : Way) : w.text.toList.head? = some '/' := by
  rw [Way.text, String.toList_append]
  rfl

/-- So does a text that is put behind one. -/
theorem written_continued {absolute : Bool} {path : String} (rest : List String)
    (h : path.toList.head? = some '/') : Written t (continued absolute path rest) := by
  unfold continued
  dsimp only
  split
  · next hrest =>
    obtain ⟨cs, hcs⟩ := String.startsWith_string_iff.1 hrest
    rw [Written, ← hcs]
    rfl
  · have hne : path.toList ≠ [] := fun hnil => by rw [hnil] at h; cases h
    rw [Written, String.append_assoc, String.toList_append, List.head?_append_of_ne_nil _ hne, h]

/-- From a way without links and by names without slashes something is written, if that is so for what links
stand for. -/
theorem written_unlink {follow : List Way → Way → List String → Unlinked} {followed : List Way} {w : Way}
    {names : List String}
    (hfollow : ∀ followed {w names}, Clear t w → (∀ name ∈ names, '/' ∉ name.toList) →
      Written t (follow followed w names))
    (hw : Clear t w) (hnames : ∀ name ∈ names, '/' ∉ name.toList) :
    Written t (t.unlink follow followed w names) := by
  induction names generalizing w with
  | nil => exact hw
  | cons name rest ih =>
    rw [List.forall_mem_cons] at hnames
    rcases self_or_up_or_plain name with hself | rfl | hp
    · rw [unlink_self hself]
      exact ih hw hnames.2
    · rw [unlink_up]
      exact ih hw.up hnames.2
    cases hlink : t.linkAt? w name with
    | none =>
      rw [unlink_enter hp hlink]
      exact ih (hw.enter hp hnames.1 hlink) hnames.2
    | some target =>
      have hcontent := hfollow (w.enter name :: followed) (linkStart_induction .root hw target)
        fun name (hname : name ∈ Path.segments target) => Path.slash_of_mem_segments hname
      rw [unlink_link hp hlink]
      split
      · exact written_continued _ (head?_text _)
      split
      · next hmid =>
        rw [hmid] at hcontent
        exact ih hcontent hnames.2
      · next hstuck =>
        rw [hstuck] at hcontent
        exact written_continued _ hcontent

/-- So links are removed or a text from the root remains, however deeply they are nested. -/
theorem written_unlinkFrom {depth : Nat} {followed : List Way} {w : Way} {names : List String}
    (hw : Clear t w) (hnames : ∀ name ∈ names, '/' ∉ name.toList) :
    Written t (t.unlinkFrom depth followed w names) := by
  induction depth generalizing followed w names with
  | zero => exact written_unlink (fun _ _ _ _ _ => written_continued _ (head?_text _)) hw hnames
  | succ depth ih => exact written_unlink (fun _ => ih) hw hnames

/-- Names without slashes lead from a way without links to another one. -/
theorem Leads.clear {n : Nat} {w w' : Way} {names : List String} (h : Leads t n w names w')
    (hw : Clear t w) (hgrounded : Grounded t directory w)
    (hnames : ∀ name ∈ names, '/' ∉ name.toList) : Clear t w' := by
  have hwritten : Written t (t.unlinkFrom (t.depthLimit directory) [] w names) :=
    written_unlinkFrom hw hnames
  rwa [unlinkFrom_depthLimit_of_leads hgrounded h] at hwritten

/-! ## Resolved paths -/

section
variable {p q : Path}

/-- What exists is what can be located. -/
theorem exists?_eq_ok_true_iff : t.exists? directory p = .ok true ↔
    hasNull p = false ∧ ∃ found, t.locate directory p = .ok found := by
  unfold exists? status?
  cases hasNull p with
  | true => simp [bind, Except.bind, pure, Except.pure]
  | false =>
    cases h : t.locate directory p with
    | ok found => simp [bind, Except.bind, pure, Except.pure]
    | error fault => cases fault <;> simp [FileFault.isAbsence, bind, Except.bind, pure, Except.pure]

/-- It cannot be known whether a path leads to something, for a fault that does not say that there is nothing. -/
theorem exists?_eq_error_iff {f : Failure} : t.exists? directory p = .error f ↔ hasNull p = false ∧
    ∃ fault, t.locate directory p = .error fault ∧ fault.isAbsence = false ∧ f = .fileFault fault p.text := by
  unfold exists? status?
  cases hasNull p with
  | true => simp [bind, Except.bind, pure, Except.pure]
  | false =>
    cases h : t.locate directory p with
    | ok found => simp [bind, Except.bind, pure, Except.pure]
    | error fault =>
      cases habsence : fault.isAbsence <;> simp [habsence, bind, Except.bind, pure, Except.pure, eq_comm (a := f)]

/-- What is looked up behind names is no failure for being a directory. -/
theorem walk_ne_isDirectory {next : List String → List String → Except FileFault (List String × FileNode)}
    (hnext : ∀ place names, next place names ≠ .error .isDirectory) (place names : List String) :
    t.walk next place names ≠ .error .isDirectory := by
  induction names generalizing place with
  | nil => rw [walk]; split <;> nofun
  | cons name rest ih =>
    rw [walk]
    repeat' split
    all_goals first | exact ih _ | exact hnext _ _ | nofun

/-- That something is a directory keeps nobody from locating it. -/
theorem locateFrom_ne_isDirectory (links : Nat) (place names : List String) :
    t.locateFrom links place names ≠ .error .isDirectory := by
  induction links generalizing place names with
  | zero => exact @walk_ne_isDirectory t (fun _ _ => .error .linkLoop) (fun _ _ => by decide) place names
  | succ links ih => exact walk_ne_isDirectory ih place names

/-- A path that cannot be looked up is too long, or behind a directory that cannot be searched. -/
theorem fault_of_exists? {f : Failure} (h : t.exists? directory p = .error f) :
    f = .fileFault .nameTooLong p.text ∨ f = .fileFault .permission p.text := by
  obtain ⟨-, fault, hfault, habsence, rfl⟩ := exists?_eq_error_iff.1 h
  cases fault with
  | nameTooLong => exact .inl rfl
  | permission => exact .inr rfl
  | isDirectory =>
    rw [locate] at hfault
    split at hfault
    · cases hfault
    · exact absurd hfault (locateFrom_ne_isDirectory _ _ _)
  | missing | notDirectory | linkLoop => cases habsence

/-- Following a path as the operating system does leads where its names lead. -/
theorem leads_of_locate {place : List String} {node : FileNode}
    (h : t.locate directory p = .ok (place, node)) :
    ∃ n w, Leads t n (.start directory p) p.names w ∧ Reached t w ∧ w.place = place ∧
      t.node? place = some node := by
  unfold locate at h
  split at h
  · cases h
  · rw [← Way.place_start] at h
    obtain ⟨n, w, hn, hfound⟩ := leads_of_locateFrom (.start directory p) h
    exact ⟨n, w, hn.names_of_steps, hfound⟩

/-- A path that leads somewhere is resolved to the place, if it does not need a current directory that has been
removed. -/
theorem resolve_of_leads {n : Nat} {w : Way} (hnull : hasNull p = false)
    (h : Leads t n (.start directory p) p.names w) : t.resolve directory p =
      if w.absolute || t.isDirectory directory then .ok ⟨"/", w.place⟩ else .error .noDirectory := by
  rw [resolve, hnull, if_neg Bool.false_ne_true, unlinkFrom_depthLimit_of_leads (.start t directory p) h]

/-- The way of an absolute path starts at the root. -/
theorem absolute_start (hp : p.isAbsolute = true) : Way.start directory p = .root := if_pos hp

/-- A path that leads somewhere is resolved to one without links. -/
theorem direct_of_exists (hp : p.Anchored) (he : t.exists? directory p = .ok true) :
    ∃ place, t.resolve directory p = .ok ⟨"/", place⟩ ∧ Direct t place := by
  obtain ⟨hnull, ⟨place, node⟩, hlocate⟩ := exists?_eq_ok_true_iff.1 he
  obtain ⟨n, w, hn, hreached, rfl, hnode⟩ := leads_of_locate hlocate
  have hresolve := resolve_of_leads hnull hn
  rw [absolute_start hp.isAbsolute] at hn
  rw [hn.absolute rfl] at hresolve
  have hclear := hn.clear .root (Grounded.root : Grounded t directory .root) hp.slash
  exact ⟨w.place, hresolve, hclear.direct hreached⟩

end

end ClusterPlan.FileTree
