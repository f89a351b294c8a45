import ClusterPlan.Proofs.Pieces
import ClusterPlan.Proofs.Properties
import ClusterPlan.Proofs.Rejection
import ClusterPlan.Proofs.Session

/-!
# The values of session properties files

An application ID, an address and dynamic properties are read from texts of a certain form, and each reader
succeeds exactly if its text has that form and fails with a failure of the session file otherwise (`Checks`).
All of it is below the limits of numbers; dynamic properties must moreover be convertible by their options.
-/

namespace ClusterPlan

/-! ## Checks -/

/-- The computation succeeds under the condition `p`, and without it fails with a failure of the session
file. -/
structure Checks {α : Type} (p : Prop) (x : Except Failure α) : Prop where
  accepted : p → ∃ a, x = .ok a
  rejected : ¬ p → ∃ f, x = .error f ∧ f.family = .session

namespace Checks

variable {α β : Type} {p q : Prop}

/-- A computation that succeeds checks a condition that holds. -/
theorem of_ok {a : α} (h : p) : Checks p (.ok a : Except Failure α) :=
  ⟨fun _ => ⟨a, rfl⟩, fun hp => absurd h hp⟩

/-- A computation with a failure of the session file checks a condition that does not. -/
theorem of_error {f : Failure} (h : ¬ p) (hf : f.family = .session) :
    Checks p (.error f : Except Failure α) :=
  ⟨fun hp => absurd hp h, fun _ => ⟨f, rfl, hf⟩⟩

/-- A sequence of two computations checks what the first one does and what the second one does after it. -/
theorem bind {x : Except Failure α} {g : α → Except Failure β} (hx : Checks p x)
    (hg : ∀ a, x = .ok a → Checks q (g a)) : Checks (p ∧ q) (x >>= g) := by
  cases x with
  | error e =>
    refine ⟨fun h => ?_, fun _ => ?_⟩
    · obtain ⟨a, ha⟩ := hx.accepted h.1
      cases ha
    · obtain ⟨f, hf, hfamily⟩ := hx.rejected fun hp => by
        obtain ⟨a, ha⟩ := hx.accepted hp
        cases ha
      cases hf
      exact ⟨e, rfl, hfamily⟩
  | ok a =>
    have hp : p := by
      by_contra hp
      obtain ⟨f, hf, -⟩ := hx.rejected hp
      cases hf
    exact ⟨fun h => (hg a rfl).accepted h.2, fun h => (hg a rfl).rejected fun hq => h ⟨hp, hq⟩⟩

/-- A computation whose result is passed on in another form checks the same. -/
theorem map {x : Except Failure α} (g : α → β) (hx : Checks p x) :
    Checks p (x >>= fun a => .ok (g a)) := by
  have h := hx.bind (q := True) fun a _ => (of_ok trivial : Checks True (.ok (g a)))
  rwa [and_true] at h

/-- So the computation succeeds exactly under the condition. -/
theorem iff {x : Except Failure α} (h : Checks p x) : (∃ a, x = .ok a) ↔ p := by
  refine ⟨fun ⟨a, ha⟩ => ?_, h.accepted⟩
  by_contra hp
  obtain ⟨f, hf, -⟩ := h.rejected hp
  rw [ha] at hf
  cases hf

/-- The condition may be put in other words. -/
theorem congr {x : Except Failure α} (h : Checks p x) (hpq : p ↔ q) : Checks q x :=
  propext hpq ▸ h

end Checks

/-! ## Application IDs -/

namespace ApplicationId

/-- The form of an ID: the leader and two runs of digits with an underscore between them. -/
def IsIdText (cs : List Char) : Prop :=
  ∃ timestamp sequence, timestamp ≠ [] ∧ sequence ≠ [] ∧ (∀ c ∈ timestamp, Text.isDigit c = true) ∧
    (∀ c ∈ sequence, Text.isDigit c = true) ∧
    cs = "application_".toList ++ (timestamp ++ '_' :: sequence)

/-- A text below the limits is read as an ID exactly if it has the form of one. -/
theorem parse_of_isIdText {s : String} (ht : Text.Trimmed s.toList) (hruns : Text.ShortRuns s.toList)
    (h : IsIdText s.toList) : ∃ id, parse s = .ok id := by
  obtain ⟨timestamp, sequence, htime, hseq, htd, hsd, hs⟩ := h
  have hit : timestamp <:+: s.toList := by
    rw [hs]
    exact ((List.prefix_append ..).isInfix).trans (List.suffix_append ..).isInfix
  have his : sequence <:+: s.toList := by
    rw [hs]
    exact ((List.suffix_cons ..).trans ((List.suffix_append ..).trans (List.suffix_append ..))).isInfix
  exact ⟨_, parse_eq_ok_iff.2 ⟨timestamp, sequence, ⟨htime, hseq, htd, hsd, ht.trim_eq.trans hs⟩,
    hruns _ hit htd, hruns _ his hsd, rfl⟩⟩

/-- What is read as an ID has the form of one. -/
theorem isIdText_of_parse {s : String} {id : ApplicationId} (ht : Text.Trimmed s.toList)
    (h : parse s = .ok id) : IsIdText s.toList := by
  obtain ⟨timestamp, sequence, ⟨htime, hseq, htd, hsd, hs⟩, -⟩ := parse_eq_ok_iff.1 h
  exact ⟨timestamp, sequence, htime, hseq, htd, hsd, ht.trim_eq ▸ hs⟩

end ApplicationId

namespace SessionRecord

/-- An ID is read exactly from a text of its form. -/
theorem checks_parseId (source : String) {raw : String} (ht : Text.Trimmed raw.toList)
    (hruns : Text.ShortRuns raw.toList) :
    Checks (ApplicationId.IsIdText raw.toList) (parseId source raw) := by
  rw [parseId]
  cases h : ApplicationId.parse raw with
  | ok id => exact .of_ok (ApplicationId.isIdText_of_parse ht h)
  | error f =>
    have hnot : ¬ ApplicationId.IsIdText raw.toList := fun hid => by
      obtain ⟨id, hok⟩ := ApplicationId.parse_of_isIdText ht hruns hid
      rw [hok] at h
      cases h
    rcases ApplicationId.rejected h with hf | ⟨-, hf⟩
    · have hexpected : f.isExpected = true := by rw [Failure.isExpected, hf]; rfl
      simp only [hexpected, ↓reduceIte]
      exact .of_error hnot rfl
    · exact absurd hruns hf

/-! ## Addresses -/

/-- The form of an address: a host and the digits of a port with a colon between them. -/
def IsAddressText (cs : List Char) : Prop :=
  ∃ host port, host ≠ [] ∧ port ≠ [] ∧ (∀ c ∈ port, Text.isDigit c = true) ∧ cs = host ++ ':' :: port

/-- A text has no colon, or it has a last one. -/
theorem exists_last_colon (cs : List Char) :
    ':' ∉ cs ∨ ∃ host port, ':' ∉ port ∧ cs = host ++ ':' :: port := by
  by_cases h : ':' ∈ cs
  · obtain ⟨port, host, hcs, hport⟩ := List.eq_append_cons_of_mem (List.mem_reverse.2 h)
    refine .inr ⟨host.reverse, port.reverse, by rwa [List.mem_reverse], ?_⟩
    rw [← List.reverse_reverse cs, hcs, List.reverse_append, List.reverse_cons, List.append_assoc]
    rfl
  · exact .inl h

/-- A text without a colon is not cut. -/
theorem cutAtLastColon_of_not_mem {cs : List Char} (h : ':' ∉ cs) : cutAtLastColon cs = none := by
  have hall : ∀ c ∈ cs.reverse, (c != ':') = true :=
    fun c hc => bne_iff_ne.2 fun e => h (e ▸ List.mem_reverse.1 hc)
  rw [cutAtLastColon, List.dropWhile_eq_nil_iff.2 hall]

/-- A text is cut at its last colon. -/
theorem cutAtLastColon_append {host port : List Char} (h : ':' ∉ port) :
    cutAtLastColon (host ++ ':' :: port) = some (host, port) := by
  have hport : ∀ c ∈ port.reverse, (c != ':') = true :=
    fun c hc => bne_iff_ne.2 fun e => h (e ▸ List.mem_reverse.1 hc)
  have hhost (c : Char) (hc : (':' :: host.reverse).head? = some c) : (c != ':') = false := by
    obtain rfl := Option.some.inj hc; rfl
  have hrev : (host ++ ':' :: port).reverse = port.reverse ++ ':' :: host.reverse := by
    rw [List.reverse_append, List.reverse_cons, List.append_assoc]
    rfl
  rw [cutAtLastColon, hrev, Text.dropWhile_run hport hhost, Text.takeWhile_run hport hhost,
    List.reverse_reverse]
  exact congrArg (fun h => some (h, port)) (List.reverse_reverse host)

/-- There is no colon among digits. -/
theorem not_colon_of_isDigit {port : List Char} (h : ∀ c ∈ port, Text.isDigit c = true) : ':' ∉ port :=
  fun hm => absurd (h _ hm) (by decide)

/-- An address is read exactly from a text of its form: the colon before the port is the last one. -/
theorem checks_parseAddress (source : String) {raw : String} (ht : Text.Trimmed raw.toList)
    (hruns : Text.ShortRuns raw.toList) :
    Checks (IsAddressText raw.toList) (parseAddress source raw) := by
  rw [parseAddress, ht.trim_eq]
  rcases exists_last_colon raw.toList with hnot | ⟨host, port, hport, hraw⟩
  · rw [cutAtLastColon_of_not_mem hnot]
    refine .of_error (fun ⟨host, port, _, _, _, hcs⟩ => hnot ?_) rfl
    rw [hcs]
    exact List.mem_append_right _ List.mem_cons_self
  · have hform : IsAddressText raw.toList ↔
        host ≠ [] ∧ port ≠ [] ∧ ∀ c ∈ port, Text.isDigit c = true := by
      refine ⟨fun ⟨host', port', hh, hp, hd, hcs⟩ => ?_, fun ⟨hh, hp, hd⟩ => ⟨host, port, hh, hp, hd, hraw⟩⟩
      have hcut := @cutAtLastColon_append host' port' (not_colon_of_isDigit hd)
      rw [← hcs, hraw, cutAtLastColon_append hport] at hcut
      obtain ⟨rfl, rfl⟩ := Prod.mk.inj (Option.some.inj hcut)
      exact ⟨hh, hp, hd⟩
    have hpart : port <:+: raw.toList := by
      rw [hraw]
      exact ((List.suffix_cons ..).trans (List.suffix_append ..)).isInfix
    have hcond : (host.isEmpty || port.isEmpty || !port.all Text.isDigit) = true ↔
        ¬ (host ≠ [] ∧ port ≠ [] ∧ ∀ c ∈ port, Text.isDigit c = true) := by
      simp only [Bool.or_eq_true, List.isEmpty_iff, Bool.not_eq_true', ne_eq, ← List.all_eq_true,
        ← Bool.not_eq_true]
      tauto
    rw [hraw, cutAtLastColon_append hport, ← hraw]
    refine Checks.congr ?_ hform.symm
    dsimp only
    split
    · next h => exact .of_error (hcond.1 h) rfl
    · next h =>
      have hwell := not_not.1 fun hn => h (hcond.2 hn)
      rw [readDigits_of_shortRuns hruns hpart hwell.2.2]
      exact .of_ok hwell

/-! ## Dynamic properties -/

/-- The assignments that the pieces of a text make; blank pieces make none. -/
def pieceAssignments (ps : List (List Char)) : List (String × String) :=
  (ps.filter fun p => !p.all Text.isBlank).map Text.splitAtEquals

/-- Every piece that is not blank is an assignment. -/
def AllAssignments (ps : List (List Char)) : Prop :=
  ∀ p ∈ ps, ¬ Text.Blank p → Text.IsAssignment p

/-- The last value of every known key can be converted by its option. -/
def Convertible (es : List (String × String)) : Prop :=
  ∀ key o v, ConfigOption.known? key = some o → lastValue? key es = some v →
    ∃ w, o.convert .standard (.str v) = .ok w

/-- Reads a piece as an assignment. -/
def readPiece (source piece : String) : Except Failure (String × String) :=
  match Text.assignment? piece with
  | some pair => .ok pair
  | none => .error (.sessionProperty source piece)

/-- Pieces that are assignments are read as these. -/
theorem mapM_readPiece (source : String) {ps : List (List Char)} (h : ∀ p ∈ ps, Text.IsAssignment p) :
    (ps.map .ofList).mapM (readPiece source) = .ok (ps.map Text.splitAtEquals) := by
  induction ps with
  | nil => rfl
  | cons p ps ih =>
    have hp : readPiece source (.ofList p) = .ok (Text.splitAtEquals p) := by
      rw [readPiece, Text.assignment?_of_isAssignment (by simpa using h p List.mem_cons_self),
        String.toList_ofList]
    rw [List.map_cons, List.mapM_cons, hp, ih fun q hq => h q (List.mem_cons_of_mem _ hq)]
    rfl

/-- A piece that is no assignment makes reading fail. -/
theorem exists_of_mapM_readPiece (source : String) {ps : List (List Char)}
    (h : ∃ p ∈ ps, ¬ Text.IsAssignment p) :
    ∃ f, (ps.map .ofList).mapM (readPiece source) = .error f ∧ f.family = .session := by
  induction ps with
  | nil => obtain ⟨p, hp, -⟩ := h; cases hp
  | cons p ps ih =>
    rw [List.map_cons, List.mapM_cons]
    by_cases hp : Text.IsAssignment p
    · obtain ⟨q, hq, hnot⟩ := h
      have hq : q ∈ ps := (List.mem_cons.1 hq).resolve_left fun e => hnot (e ▸ hp)
      obtain ⟨f, hf, hfamily⟩ := ih ⟨q, hq, hnot⟩
      refine ⟨f, ?_, hfamily⟩
      rw [readPiece, Text.assignment?_of_isAssignment (by simpa using hp), hf]
      rfl
    · refine ⟨.sessionProperty source (.ofList p), ?_, rfl⟩
      rw [readPiece, Text.assignment?_of_not_isAssignment (by simpa using hp)]
      rfl

/-- The pieces that are not blank are read one by one, and later assignments override earlier ones. -/
theorem parseDynamic_eq (source : String) (ps : List (List Char)) :
    parseDynamic source (ps.map .ofList) = (do
      let pairs ← ((ps.filter fun p => !p.all Text.isBlank).map String.ofList).mapM (readPiece source)
      return .ofList pairs) := by
  have hfilter : (ps.map String.ofList).filter (fun p => !Text.isBlankText p) =
      (ps.filter fun p => !p.all Text.isBlank).map .ofList := by
    rw [List.filter_map]
    exact congrArg (List.map String.ofList) (List.filter_congr fun p _ => by
      simp only [Function.comp, Text.isBlankText, String.toList_ofList])
  rw [parseDynamic, hfilter]
  rfl

/-- The pieces that count are those that are not blank. -/
theorem mem_filter_blank {p : List Char} {ps : List (List Char)} :
    p ∈ ps.filter (fun p => !p.all Text.isBlank) ↔ p ∈ ps ∧ ¬ Text.Blank p := by
  simp [List.mem_filter, Text.Blank]

/-- Reading pieces gives their assignments, if all of them are one; else it is a failure of the file. -/
theorem parseDynamic_of_allAssignments (source : String) {ps : List (List Char)} (h : AllAssignments ps) :
    parseDynamic source (ps.map .ofList) = .ok (.ofList (pieceAssignments ps)) := by
  rw [parseDynamic_eq, mapM_readPiece source fun p hp =>
    h p (mem_filter_blank.1 hp).1 (mem_filter_blank.1 hp).2]
  rfl

/-- A piece that is neither blank nor an assignment is a failure of the file. -/
theorem exists_of_not_allAssignments (source : String) {ps : List (List Char)} (h : ¬ AllAssignments ps) :
    ∃ f, parseDynamic source (ps.map .ofList) = .error f ∧ f.family = .session := by
  simp only [AllAssignments, not_forall] at h
  obtain ⟨p, hp, hblank, hnot⟩ := h
  obtain ⟨f, hf, hfamily⟩ :=
    exists_of_mapM_readPiece source ⟨p, mem_filter_blank.2 ⟨hp, hblank⟩, hnot⟩
  exact ⟨f, by rw [parseDynamic_eq, hf]; rfl, hfamily⟩

/-- The dynamic properties are checked by conversion, which fails as a failure of the file if their values are
within the limits of the options. -/
theorem checks_checkDynamic (tolerance : Tolerance) (source : String) {es : List (String × String)}
    (hlimits : ∀ key o v, ConfigOption.known? key = some o → lastValue? key es = some v →
      o.WithinLimits v) : Checks (Convertible es) (checkDynamic tolerance source (.ofList es)) := by
  rw [checkDynamic]
  cases h : Configuration.ofValues tolerance (asValues (.ofList es)) with
  | ok c =>
    refine .of_ok fun key o v ho hv => ?_
    have hg : (asValues (.ofList es)).get? key = some (.str v) := by
      rw [asValues, Ordered.get?_map, Ordered.get?_ofList, ← lastValue?, hv]
      rfl
    obtain ⟨w, hw, -⟩ := Ordered.get?_of_traverse (Configuration.ofValues_eq_ok_iff.1 h) hg
    rw [Configuration.convertEntry_str tolerance .standard, Configuration.convertEntry, ho] at hw
    exact ⟨w, hw⟩
  | error f =>
    obtain ⟨key, v, hv, hf⟩ := Configuration.exists_of_ofValues_eq_error h
    rw [asValues, Ordered.get?_map, Ordered.get?_ofList, ← lastValue?] at hv
    obtain ⟨s, hs, rfl⟩ := Option.map_eq_some_iff.1 hv
    rw [Configuration.convertEntry_str tolerance .standard, Configuration.convertEntry] at hf
    split at hf
    · next o ho =>
      have hnot : ¬ Convertible es := fun hc => by
        obtain ⟨w, hw⟩ := hc key o s ho hs
        rw [hw] at hf
        cases hf
      have hexpected : f.isExpected = true := by
        rcases ConfigOption.rejected hf with ⟨-, hfamily⟩ | ⟨-, hfamily⟩ | ⟨-, hlimit⟩
        · rw [Failure.isExpected, hfamily]; rfl
        · rw [Failure.isExpected, hfamily]; rfl
        · exact absurd (hlimits key o s ho hs) hlimit
      simp only [hexpected, ↓reduceIte]
      exact .of_error hnot rfl
    · cases hf

end SessionRecord

end ClusterPlan
