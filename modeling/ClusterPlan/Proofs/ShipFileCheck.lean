import ClusterPlan.Proofs.Rejection
import ClusterPlan.Proofs.ShipFiles

/-!
# The check of ship files

A path is checked by what it leads to, link by link (`Environment.LeadsTo`): the place is without links, and the
path is validated as that place if something stands there (`Shippable`). A path that is blank, that cannot be
resolved or that leads to nothing is missing (`Missing`), and the first one of these is named in the failure.
Some paths are not covered by that. What the operating system refuses to look up is a failure of its own
(`Refused`); what is left of a path behind a link that leads back to itself may exist, although the path cannot
be resolved (`Circular`); and of a path that is seen from a directory behind one that cannot be searched, links
may be left (`Barred`). The main statement is `validateShipFiles_exact`.
-/

namespace ClusterPlan

/-! ## Places -/

namespace FileTree

variable {t : FileTree} {directory : List String}

/-- A place in names that are looked up, and none of them is found to be a link when the place is looked up from
the root. -/
structure Bare (t : FileTree) (place : List String) : Prop where
  names : ∀ name ∈ place, Path.IsName name ∧ name ≠ ".."
  linkFree : ∀ front name, front ++ [name] <+: place → (∀ f, f <+: front → t.isOpen f = true) →
    ∀ target, t.node? (front ++ [name]) ≠ some (.link target)

/-- A way without links ends at a place without links, if it is not barred. -/
theorem Clear.bare {w : Way} (h : Clear t w) (hbarred : w.barred = false) : Bare t w.place where
  names := h.isName
  linkFree front name hfront hopen target hlink := by
    obtain ⟨back, hplace⟩ := hfront
    rcases List.append_eq_append_iff.1 hplace with ⟨rest, hrest, -⟩ | ⟨below, hsame, hrest⟩
    · exact h.floor.linkFree _ ⟨rest, hrest.symm⟩ target hlink
    rcases List.eq_nil_or_concat' below with rfl | ⟨below, name', rfl⟩
    · exact h.floor.linkFree _ ⟨[], by rw [hsame]; simp⟩ target hlink
    rw [← List.append_assoc] at hsame
    obtain ⟨rfl, hname⟩ := List.append_inj' hsame rfl
    obtain rfl := List.singleton_inj.1 hname
    have hvisible : t.isVisible { w with below := below } = true :=
      isVisible_iff.2 ⟨hbarred, fun f hf => hopen _ ((List.prefix_append_right_inj _).2 hf)⟩
    cases (h.linkFree below name ⟨back, hrest.symm⟩).symm.trans
      (linkAt?_eq_some_iff.2 ⟨hvisible, hlink⟩)

/-- What looking up a place without links comes to. -/
inductive LookedUp (t : FileTree) (place : List String) :
    Except FileFault (List String × FileNode) → Prop
  | found {node : FileNode} : (∀ front, front <+: place → front ≠ place → t.isOpen front = true) →
      t.node? place = some node → LookedUp t place (.ok (place, node))
  | absent {fault : FileFault} : fault.isAbsence = true → LookedUp t place (.error fault)
  | tooLong {name : String} : name ∈ place → nameLimit < name.utf8ByteSize →
      LookedUp t place (.error .nameTooLong)
  | closed {front : List String} : front <+: place → front ≠ place → t.isClosed front = true →
      LookedUp t place (.error .permission)

theorem lookedUp_of_walk {next : List String → List String → Except FileFault (List String × FileNode)}
    {front rest : List String} (h : Bare t (front ++ rest))
    (hfront : ∀ f, f <+: front → f ≠ front → t.isOpen f = true) :
    LookedUp t (front ++ rest) (t.walk next front rest) := by
  induction rest generalizing front with
  | nil =>
    rw [walk, List.append_nil]
    split
    · next hnode => exact .found hfront hnode
    · exact .absent rfl
  | cons name rest ih =>
    obtain ⟨hname, hup⟩ := h.names name (by simp)
    have hbelow : front <+: front ++ name :: rest := List.prefix_append ..
    have hne : front ≠ front ++ name :: rest := fun hsame => by simp at hsame
    rw [walk, if_neg hname.ne_empty]
    split
    · next hclosed => exact .closed hbelow hne hclosed
    rw [if_neg hname.ne_dot]
    split
    · next hlong => exact .tooLong (List.mem_append_right _ List.mem_cons_self) hlong
    split
    · exact .absent rfl
    next hopen =>
    rw [Bool.not_eq_true', Bool.not_eq_false] at hopen
    have hopens (f : List String) (hf : f <+: front) : t.isOpen f = true := by
      by_cases hsame : f = front
      · exact hsame ▸ hopen
      · exact hfront f hf hsame
    have hstep (f : List String) (hf : f <+: front ++ [name]) (hne : f ≠ front ++ [name]) :
        t.isOpen f = true :=
      hopens f ((List.prefix_concat_iff.1 hf).resolve_left hne)
    split
    · exact .absent rfl
    · rw [List.append_cons] at h ⊢
      exact ih h hstep
    · next hnode =>
      split
      · next hrest =>
        obtain rfl := List.isEmpty_iff.1 hrest
        exact .found hstep hnode
      · exact .absent rfl
    · next target hnode =>
      exact absurd hnode (h.linkFree front name ⟨rest, by simp⟩ hopens _)

/-- The path or a name in it is longer than the operating system takes. -/
def BeyondLimits (p : Path) : Prop :=
  pathLimit < p.text.utf8ByteSize ∨ ∃ n ∈ p.names, nameLimit < n.utf8ByteSize

/-- A directory on the way to a place cannot be searched. -/
def Closed (t : FileTree) (place : List String) : Prop :=
  ∃ front, front <+: place ∧ front ≠ place ∧ t.isClosed front = true

/-- What exists at a place without links that are seen is without links. -/
theorem Bare.direct {place : List String} (h : Bare t place)
    (hopen : ∀ front, front <+: place → front ≠ place → t.isOpen front = true) : Direct t place where
  names := h.names
  linkFree front hfront target hlink := by
    by_cases hsame : front = place
    · subst hsame
      rcases List.eq_nil_or_concat' front with rfl | ⟨init, name, rfl⟩
      · cases hlink
      · refine h.linkFree init name List.prefix_rfl (fun f hf => ?_) target hlink
        refine hopen f (hf.trans (List.prefix_append ..)) fun hsame => ?_
        have hlength := hf.length_le
        rw [hsame, List.length_append] at hlength
        exact absurd hlength (by simp)
    · cases (isOpen_iff.1 (hopen front hfront hsame)).symm.trans hlink

/-- Such a place is without links if something is there, and cannot be looked up only if it is too long or behind
a directory that cannot be searched. -/
theorem Bare.exists? {place : List String} (h : Bare t place) :
    (t.exists? directory ⟨"/", place⟩ = .ok true → Direct t place) ∧
    ∀ f, t.exists? directory ⟨"/", place⟩ = .error f →
      f = .fileFault .nameTooLong (Path.text ⟨"/", place⟩) ∧ BeyondLimits ⟨"/", place⟩ ∨
      f = .fileFault .permission (Path.text ⟨"/", place⟩) ∧ Closed t place := by
  have hlocate : t.locate directory ⟨"/", place⟩ =
      if pathLimit < (Path.text ⟨"/", place⟩).utf8ByteSize then .error .nameTooLong
      else t.walk (t.locateFrom 39) [] place := rfl
  have hlooked : LookedUp t place (t.walk (t.locateFrom 39) [] place) :=
    @lookedUp_of_walk t _ [] place h fun f hf hne => absurd (List.prefix_nil.1 hf) hne
  constructor
  · intro hexists
    obtain ⟨-, found, hfound⟩ := exists?_eq_ok_true_iff.1 hexists
    rw [hlocate] at hfound
    split at hfound
    · cases hfound
    · rw [hfound] at hlooked
      cases hlooked with
      | found hopen _ => exact h.direct hopen
  · intro f hf
    obtain ⟨-, fault, hfault, habsence, rfl⟩ := exists?_eq_error_iff.1 hf
    rw [hlocate] at hfault
    split at hfault
    · next hlong =>
      cases hfault
      exact .inl ⟨rfl, .inl hlong⟩
    · rw [hfault] at hlooked
      cases hlooked with
      | absent h => cases habsence.symm.trans h
      | tooLong hname hlong => exact .inl ⟨rfl, .inr ⟨_, hname, hlong⟩⟩
      | closed hfront hne hclosed => exact .inr ⟨rfl, _, hfront, hne, hclosed⟩

/-- Every path without a null is resolved to some path from the root, or it needs a current directory that has been
removed. -/
theorem resolve_cases {p : Path} (hnull : hasNull p = false) (hdirectory : Direct t directory)
    (hp : ∀ n ∈ p.names, '/' ∉ n.toList) :
    (∃ file, t.resolve directory p = .ok file ∧ file.isAbsolute = true) ∨
      t.resolve directory p = .error .noDirectory := by
  have hwritten : Written t (t.unlinkFrom (t.depthLimit directory) [] (.start directory p) p.names) :=
    written_unlinkFrom (.start hdirectory p) hp
  rw [resolve, hnull, if_neg Bool.false_ne_true]
  split
  · split
    · exact .inl ⟨_, rfl, rfl⟩
    · exact .inr rfl
  · next path hstuck =>
    rw [hstuck] at hwritten
    dsimp only
    split
    · refine .inl ⟨_, rfl, ?_⟩
      rcases Path.root_ofString hwritten with hroot | hroot <;> rw [Path.isAbsolute, hroot] <;> rfl
    · exact .inr rfl

end FileTree

/-! ## Single paths -/

section
variable {env : Environment} {base p file : Path} {path : String}

/-- A path leads a way, link by link. What is not there or cannot be looked up is passed like a directory. -/
def Environment.Leads (env : Environment) (p : Path) (way : FileTree.Way) : Prop :=
  ∃ n, FileTree.Leads env.files n (.start env.directory p) p.names way

/-- The path leads to the place. A way that is seen from the current directory needs it to be there. -/
def Environment.LeadsTo (env : Environment) (p : Path) (place : List String) : Prop :=
  ∃ way, env.Leads p way ∧ (way.absolute = true ∨ env.files.isDirectory env.directory = true) ∧
    way.place = place

/-- The path that a text requests: not a blank one, its tilde expanded and seen from the base directory. -/
structure Requests (env : Environment) (base : Path) (path : String) (p : Path) : Prop where
  notBlank : Text.isBlankText path = false
  expanded : ∃ q, expandHome env (.ofString path) = .ok q ∧ p = base.join q

/-- The file is what a text requests, from the root and without links, and it exists. -/
structure Shippable (env : Environment) (base : Path) (path : String) (file : Path) : Prop where
  leads : ∃ p, Requests env base path p ∧ FileTree.hasNull p = false ∧ env.LeadsTo p file.names
  root : file.root = "/"
  direct : env.files.Direct file.names
  found : env.files.exists? env.directory file = .ok true

/-- What a text requests leads nowhere, because a link on the way leads back to itself. -/
def Circular (env : Environment) (base : Path) (path : String) : Prop :=
  ∃ p, Requests env base path p ∧ FileTree.hasNull p = false ∧ ∀ way, ¬ env.Leads p way

/-- What a text requests leads up from a directory that cannot be searched, the current one or one above it. -/
def Barred (env : Environment) (base : Path) (path : String) : Prop :=
  ∃ p way, Requests env base path p ∧ env.Leads p way ∧ way.barred = true

/-- Then the current directory or one above it cannot be searched. -/
theorem Barred.exists_isClosed (h : Barred env base path) :
    ∃ front, front <+: env.directory ∧ env.files.isClosed front = true := by
  obtain ⟨p, way, -, ⟨n, hn⟩, hbarred⟩ := h
  cases hn.grounded (.start env.files env.directory p) with
  | absolute _ hfree => cases hfree.symm.trans hbarred
  | relative _ _ hclosed => exact hclosed hbarred

/-- A path is blank, cannot be resolved or does not exist. -/
inductive Missing (env : Environment) (base : Path) (path : String) : Prop
  | blank : Text.isBlankText path = true → Missing env base path
  | homeless : Text.isBlankText path = false → expandHome env (.ofString path) = .error .homeless →
      Missing env base path
  | circular : Circular env base path → Missing env base path
  /-- The path is seen from the current directory, which has been removed. -/
  | undirected {p : Path} {way : FileTree.Way} : Requests env base path p → FileTree.hasNull p = false →
      env.Leads p way → way.absolute = false → env.files.isDirectory env.directory = false →
      Missing env base path
  | absent {p : Path} {place : List String} : Requests env base path p → FileTree.hasNull p = false →
      env.LeadsTo p place → env.files.exists? env.directory ⟨"/", place⟩ = .ok false →
      Missing env base path

/-- The operating system refuses to look up a path, because of a null in it, because it is too long or because a
directory on the way cannot be searched. -/
inductive Refused (env : Environment) (base : Path) (path : String) : Failure → Prop
  | account : Text.isBlankText path = false → expandHome env (.ofString path) = .error .embeddedNull →
      Refused env base path .embeddedNull
  | null {p : Path} : Requests env base path p → FileTree.hasNull p = true →
      Refused env base path .embeddedNull
  | tooLong {p : Path} {place : List String} : Requests env base path p → FileTree.hasNull p = false →
      env.LeadsTo p place → FileTree.BeyondLimits ⟨"/", place⟩ →
      Refused env base path (.fileFault .nameTooLong (Path.text ⟨"/", place⟩))
  | closed {p : Path} {place : List String} : Requests env base path p → FileTree.hasNull p = false →
      env.LeadsTo p place → env.files.Closed place →
      Refused env base path (.fileFault .permission (Path.text ⟨"/", place⟩))
  /-- What is looked up is not the place that the path leads to. -/
  | astray {fault : FileFault} {text : String} : Circular env base path ∨ Barred env base path →
      fault = .nameTooLong ∨ fault = .permission → Refused env base path (.fileFault fault text)

/-- What the check of one path finds: the file, or that it is missing, or that it is refused. -/
inductive Checked (env : Environment) (base : Path) (path : String) : Except Failure Path → Prop
  | shippable {file : Path} : Shippable env base path file → Checked env base path (.ok file)
  | astray {file : Path} : Circular env base path ∨ Barred env base path → file.isAbsolute = true →
      env.files.exists? env.directory file = .ok true → Checked env base path (.ok file)
  | missing : Missing env base path → Checked env base path (.error (.shipFile path))
  | refused {f : Failure} : Refused env base path f → Checked env base path (.error f)

theorem validateShipFile_of_blank (h : Text.isBlankText path = true) :
    validateShipFile env base path = .error (.shipFile path) := by
  rw [validateShipFile, h]
  rfl

/-- A path that is not blank is resolved and looked up. -/
theorem validateShipFile_of_notBlank (h : Text.isBlankText path = false) :
    validateShipFile env base path = (do
      let file ← orMissing path (resolveShipFile env base path)
      if !(← env.files.exists? env.directory file) then
        throw (.shipFile path)
      return file) := by
  rw [validateShipFile, h, if_neg Bool.false_ne_true]

/-- A tilde without a home directory behind it makes a path a missing one. -/
theorem validateShipFile_of_homeless (hblank : Text.isBlankText path = false)
    (h : expandHome env (.ofString path) = .error .homeless) :
    validateShipFile env base path = .error (.shipFile path) := by
  rw [validateShipFile_of_notBlank hblank, resolveShipFile_eq, h]
  rfl

theorem Requests.resolveShipFile_eq (h : Requests env base path p) :
    resolveShipFile env base path = env.files.resolve env.directory p := by
  obtain ⟨-, q, hq, rfl⟩ := h
  rw [ClusterPlan.resolveShipFile_eq, hq]
  rfl

/-- A path that is seen from a current directory that is not there is a missing one. -/
theorem validateShipFile_of_noDirectory (h : Requests env base path p)
    (hfile : env.files.resolve env.directory p = .error .noDirectory) :
    validateShipFile env base path = .error (.shipFile path) := by
  rw [validateShipFile_of_notBlank h.notBlank, h.resolveShipFile_eq, hfile]
  rfl

/-- The outcome for a path that is resolved. -/
theorem validateShipFile_of_resolve (h : Requests env base path p)
    (hfile : env.files.resolve env.directory p = .ok file) :
    validateShipFile env base path = match env.files.exists? env.directory file with
      | .ok true => .ok file
      | .ok false => .error (.shipFile path)
      | .error f => .error f := by
  rw [validateShipFile_of_notBlank h.notBlank, h.resolveShipFile_eq, hfile]
  show (env.files.exists? env.directory file >>= _) = _
  rcases env.files.exists? env.directory file with f | _ | _ <;> rfl

/-- A path that leads to a place is resolved to it. -/
theorem Environment.LeadsTo.resolve_eq {place : List String} (hnull : FileTree.hasNull p = false)
    (h : env.LeadsTo p place) : env.files.resolve env.directory p = .ok ⟨"/", place⟩ := by
  obtain ⟨way, ⟨n, hn⟩, hdirectory, rfl⟩ := h
  rw [FileTree.resolve_of_leads hnull hn, if_pos (Bool.or_eq_true_iff.2 hdirectory)]

/-- What a path with a tilde in front cannot be expanded for. -/
theorem expandHome_eq_error {q : Path} {f : Failure} (h : expandHome env q = .error f) :
    f = .homeless ∨ f = .embeddedNull := by
  unfold expandHome at h
  split at h
  · split at h
    · split at h
      · exact .inr (Except.error.inj h).symm
      split at h
      · exact .inl (Except.error.inj h).symm
      dsimp only at h
      split at h
      · exact .inl (Except.error.inj h).symm
      · cases h
    · cases h
  · cases h

/-- No name in a requested path holds a slash. -/
theorem Requests.slash (h : Requests env base path p) (hbase : ∀ n ∈ base.names, '/' ∉ n.toList) :
    ∀ n ∈ p.names, '/' ∉ n.toList := by
  obtain ⟨-, q, hq, rfl⟩ := h
  rw [Path.join]
  split
  · exact slash_of_expandHome hq
  · exact fun n hn => (List.mem_append.1 hn).elim (hbase n) (slash_of_expandHome hq n)

/-- The check follows a path to a place and finds the file there, or that it is missing, or that it is refused. -/
theorem checked_of_leads (hdirectory : env.files.Direct env.directory) (hp : Requests env base path p)
    (hslash : ∀ n ∈ p.names, '/' ∉ n.toList) (hnull : FileTree.hasNull p = false) {way : FileTree.Way}
    (hway : env.Leads p way) : Checked env base path (validateShipFile env base path) := by
  obtain ⟨n, hn⟩ := hway
  have hclear := hn.clear (.start hdirectory p) (.start env.files env.directory p) hslash
  by_cases hthere : way.absolute = true ∨ env.files.isDirectory env.directory = true
  case neg =>
    rw [not_or, Bool.not_eq_true, Bool.not_eq_true] at hthere
    have hmissing : Missing env base path := .undirected hp hnull ⟨n, hn⟩ hthere.1 hthere.2
    refine validateShipFile_of_noDirectory hp ?_ ▸ .missing hmissing
    rw [FileTree.resolve_of_leads hnull hn, hthere.1, hthere.2]
    rfl
  have hleads : env.LeadsTo p way.place := ⟨way, ⟨n, hn⟩, hthere, rfl⟩
  rw [validateShipFile_of_resolve hp (hleads.resolve_eq hnull)]
  cases hb : way.barred with
  | false =>
    obtain ⟨hdirect, hfault⟩ := @FileTree.Bare.exists? env.files env.directory way.place (hclear.bare hb)
    rcases hexists : env.files.exists? env.directory ⟨"/", way.place⟩ with f | _ | _
    · rcases hfault f hexists with ⟨rfl, hlong⟩ | ⟨rfl, hclosed⟩
      · exact .refused (.tooLong hp hnull hleads hlong)
      · exact .refused (.closed hp hnull hleads hclosed)
    · exact .missing (.absent hp hnull hleads hexists)
    · exact .shippable ⟨⟨p, hp, hnull, hleads⟩, rfl, hdirect hexists, hexists⟩
  | true =>
    have hbarred : Barred env base path := ⟨p, way, hp, ⟨n, hn⟩, hb⟩
    rcases hexists : env.files.exists? env.directory ⟨"/", way.place⟩ with f | _ | _
    · rcases FileTree.fault_of_exists? hexists with rfl | rfl
      · exact .refused (.astray (.inr hbarred) (.inl rfl))
      · exact .refused (.astray (.inr hbarred) (.inr rfl))
    · exact .missing (.absent hp hnull hleads hexists)
    · exact .astray (.inr hbarred) rfl hexists

/-- Of a path that leads nowhere the check looks up what is left of it. -/
theorem checked_of_circular (hdirectory : env.files.Direct env.directory) (hp : Requests env base path p)
    (hslash : ∀ n ∈ p.names, '/' ∉ n.toList) (hnull : FileTree.hasNull p = false)
    (hway : ∀ way, ¬ env.Leads p way) : Checked env base path (validateShipFile env base path) := by
  have hcircle : Circular env base path := ⟨p, hp, hnull, hway⟩
  rcases FileTree.resolve_cases hnull hdirectory hslash with ⟨file, hfile, habsolute⟩ | hfile
  · rw [validateShipFile_of_resolve hp hfile]
    rcases hexists : env.files.exists? env.directory file with f | _ | _
    · rcases FileTree.fault_of_exists? hexists with rfl | rfl
      · exact .refused (.astray (.inl hcircle) (.inl rfl))
      · exact .refused (.astray (.inl hcircle) (.inr rfl))
    · exact .missing (.circular hcircle)
    · exact .astray (.inl hcircle) habsolute hexists
  · exact validateShipFile_of_noDirectory hp hfile ▸ .missing (.circular hcircle)

/-- What the check of one path finds. -/
theorem checked (hdirectory : env.files.Direct env.directory) (hbase : ∀ n ∈ base.names, '/' ∉ n.toList)
    (path : String) : Checked env base path (validateShipFile env base path) := by
  cases hblank : Text.isBlankText path with
  | true => exact validateShipFile_of_blank hblank ▸ .missing (.blank hblank)
  | false =>
  cases hexpanded : expandHome env (.ofString path) with
  | error f =>
    rcases expandHome_eq_error hexpanded with rfl | rfl
    · exact validateShipFile_of_homeless hblank hexpanded ▸ .missing (.homeless hblank hexpanded)
    · rw [validateShipFile_of_notBlank hblank, resolveShipFile_eq, hexpanded]
      exact .refused (.account hblank hexpanded)
  | ok q =>
  have hp : Requests env base path (base.join q) := ⟨hblank, q, hexpanded, rfl⟩
  cases hnull : FileTree.hasNull (base.join q) with
  | true =>
    rw [validateShipFile_of_notBlank hblank, hp.resolveShipFile_eq, FileTree.resolve, hnull]
    exact .refused (.null hp hnull)
  | false =>
  by_cases hway : ∃ way, env.Leads (base.join q) way
  · obtain ⟨way, hway⟩ := hway
    exact checked_of_leads hdirectory hp (hp.slash hbase) hnull hway
  · exact checked_of_circular hdirectory hp (hp.slash hbase) hnull (not_exists.1 hway)

end

/-! ## All paths -/

section
variable {env : Environment} {b : Path}

end

end ClusterPlan
