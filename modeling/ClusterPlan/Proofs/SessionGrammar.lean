import ClusterPlan.Proofs.SessionTexts

/-!
# The grammar of session properties files

With the session settings at their defaults, three keys of a properties file count: the application ID, the
address of the job manager and the dynamic properties. What record their last values give, if any, does not
depend on anything else (`SessionRecord.parse_eq_ok_iff`). `SessionRecord.parse_grammar` says that a file
within the limits of numbers is read exactly if these values follow the grammar (`SessionRecord.Accepts`), and
that it is a failure of the file otherwise.
-/

namespace ClusterPlan

/-- The session settings are the default ones. -/
structure Settings.StandardSession (s : Settings) : Prop where
  applicationIdKey : s.get .applicationIdKey = .ok (.str "applicationID")
  jobManagerKey : s.get .jobManagerKey = .ok (.str "jobManager")
  dynamicPropertiesKey : s.get .dynamicPropertiesKey = .ok (.str "dynamicPropertiesString")
  dynamicPropertiesSeparator : s.get .dynamicPropertiesSeparator = .ok (.str "@@")

/-- The settings without a settings file are of this kind. -/
theorem Settings.standardSession_standard : Settings.standard.StandardSession :=
  ⟨rfl, rfl, rfl, rfl⟩

namespace SessionRecord

variable {settings : Settings} {source content : String} {properties : Ordered String}

/-! ## Last values -/

/-- An assigned value is a part of the text, without blanks at its ends. -/
theorem value_of_lastValue? {key s : String} {ls : List (List Char)}
    (h : lastValue? key (ls.map Text.splitAtEquals) = some s) :
    Text.Trimmed s.toList ∧ ∃ l ∈ ls, s.toList <:+: l := by
  obtain ⟨l, hl, hs⟩ := List.mem_map.1 (List.mem_reverse.1 (Ordered.mem_of_lookup h))
  obtain ⟨-, rfl⟩ := Prod.mk.inj hs
  rw [String.toList_ofList]
  refine ⟨Text.trimmed_trim _, l, hl, (Text.infix_trim _).trans ?_⟩
  exact ((List.drop_suffix ..).trans (List.dropWhile_suffix _)).isInfix

/-- The last value of a key is a part of the file, without blanks at its ends. -/
theorem value_of_lastAssigned? {key s : String} (h : lastAssigned? key content = some s) :
    Text.Trimmed s.toList ∧ s.toList <:+: content.toList := by
  rw [lastAssigned?, filterMap_assigned?] at h
  obtain ⟨htrimmed, l, hl, hs⟩ := value_of_lastValue? h
  exact ⟨htrimmed, hs.trans (Text.infix_of_mem_lines (List.mem_filter.1 hl).1)⟩

/-! ## The three readers -/

/-- The application ID is the value under its key, which has to be there. -/
theorem readId_eq (hs : settings.StandardSession) :
    readId settings source content properties = match properties.get? "applicationID" with
      | none => .error (.sessionWithoutId source "applicationID" (Text.strip content))
      | some raw => parseId source raw := by
  rw [readId, hs.applicationIdKey]
  show (match properties.get? "applicationID" with
    | none => _
    | some raw => _) = _
  cases properties.get? "applicationID" <;> rfl

/-- The address is the value under its key, if there is one. -/
theorem readAddress_eq (hs : settings.StandardSession) :
    readAddress settings source properties = match properties.get? "jobManager" with
      | none => .ok none
      | some raw => parseAddress source raw >>= fun address => .ok (some address) := by
  rw [readAddress, hs.jobManagerKey]
  show (match properties.get? "jobManager" with
    | none => _
    | some raw => _) = _
  cases properties.get? "jobManager" <;> rfl

/-- The pieces of the dynamic properties are those that the separator cuts; a text without any characters has
none instead of an empty one. -/
theorem dynamicPieces_eq (hs : settings.StandardSession) {raw? : Option String} {ps : List (List Char)}
    (hps : Text.Cut "@@".toList (raw?.getD "").toList ps) :
    dynamicPieces settings raw? = .ok (ps.map .ofList) ∨
      dynamicPieces settings raw? = .ok [] ∧ ps = [[]] := by
  have hpieces := (Text.cut_iff (by decide)).1 hps
  unfold dynamicPieces
  split
  · exact .inr ⟨rfl, hpieces.symm⟩
  · exact .inr ⟨rfl, hpieces.symm⟩
  · next raw _ =>
    rw [hs.dynamicPropertiesSeparator]
    rw [← hpieces]
    exact .inl rfl

/-- The dynamic properties are read piece by piece and then checked as a whole. -/
theorem readDynamic_eq (hs : settings.StandardSession) {ps : List (List Char)}
    (hps : Text.Cut "@@".toList ((properties.get? "dynamicPropertiesString").getD "").toList ps) :
    readDynamic settings source properties = (do
      let dynamic ← parseDynamic source (ps.map .ofList)
      checkDynamic settings.tolerance source dynamic
      return dynamic) := by
  rw [readDynamic, hs.dynamicPropertiesKey]
  show (do
    let dynamic ← parseDynamic source (← dynamicPieces settings (properties.get? "dynamicPropertiesString"))
    checkDynamic settings.tolerance source dynamic
    return dynamic) = _
  rcases dynamicPieces_eq hs hps with h | ⟨h, rfl⟩
  · rw [h]
    rfl
  · rw [h, parseDynamic_eq]
    rfl

/-! ## Records -/

/-- The record that the last values of the three keys give. -/
structure Reads (tolerance : Tolerance) (id? address? dynamic? : Option String) (r : SessionRecord) :
    Prop where
  id : ∃ raw, id? = some raw ∧ ApplicationId.parse raw = .ok r.clusterId
  address : (address? = none ∧ r.address = none ∧ r.port = none) ∨
    ∃ raw host port, address? = some raw ∧ parseAddress "" raw = .ok (host, port) ∧
      r.address = some host ∧ r.port = some port
  dynamic : ∃ ps, Text.Cut "@@".toList (dynamic?.getD "").toList ps ∧ AllAssignments ps ∧
    r.dynamic = .ofList (pieceAssignments ps) ∧
    ∃ c, Configuration.ofValues tolerance (asValues r.dynamic) = .ok c

/-- An ID of a session file is any ID; only its failures are those of the file. -/
theorem parseId_eq_ok_iff {raw : String} {id : ApplicationId} :
    parseId source raw = .ok id ↔ ApplicationId.parse raw = .ok id := by
  rw [parseId]
  cases ApplicationId.parse raw with
  | ok id => rfl
  | error f =>
    constructor
    · intro h; cases h
    · intro h; cases h

/-- The name of the source has no part in an address. -/
theorem parseAddress_of_source {source source' raw : String} {address : String × Int}
    (h : parseAddress source raw = .ok address) : parseAddress source' raw = .ok address := by
  unfold parseAddress at h ⊢
  split at h
  · cases h
  · split at h
    · cases h
    · next hform => rw [if_neg hform]; exact h

/-- The check of the dynamic properties is their conversion. -/
theorem checkDynamic_eq_ok_iff {tolerance : Tolerance} {dynamic : Ordered String} :
    checkDynamic tolerance source dynamic = .ok () ↔
      ∃ c, Configuration.ofValues tolerance (asValues dynamic) = .ok c := by
  rw [checkDynamic]
  cases Configuration.ofValues tolerance (asValues dynamic) with
  | ok c => exact ⟨fun _ => ⟨c, rfl⟩, fun _ => rfl⟩
  | error f =>
    constructor
    · intro h; cases h
    · rintro ⟨c, h⟩; cases h

/-- The application ID is read exactly when the value under its key is one. -/
theorem readId_eq_ok_iff (hs : settings.StandardSession) {id : ApplicationId} :
    readId settings source content properties = .ok id ↔
      ∃ raw, properties.get? "applicationID" = some raw ∧ ApplicationId.parse raw = .ok id := by
  rw [readId_eq hs]
  cases properties.get? "applicationID" with
  | none => exact ⟨nofun, nofun⟩
  | some raw =>
    exact parseId_eq_ok_iff.trans ⟨fun h => ⟨raw, rfl, h⟩, fun ⟨_, hraw, h⟩ => by cases hraw; exact h⟩

/-- The address is read exactly when there is none or the value under its key is one. -/
theorem readAddress_eq_ok_iff (hs : settings.StandardSession) {address : Option (String × Int)} :
    readAddress settings source properties = .ok address ↔
      (properties.get? "jobManager" = none ∧ address = none) ∨
      ∃ raw host port, properties.get? "jobManager" = some raw ∧
        parseAddress "" raw = .ok (host, port) ∧ address = some (host, port) := by
  rw [readAddress_eq hs]
  cases properties.get? "jobManager" with
  | none =>
    constructor
    · intro h; cases h; exact .inl ⟨rfl, rfl⟩
    · rintro (⟨-, rfl⟩ | ⟨_, _, _, h, -⟩)
      · rfl
      · cases h
  | some raw =>
    constructor
    · intro h
      obtain ⟨⟨host, port⟩, hparse, h⟩ := bind_eq_ok.1 h
      cases h
      exact .inr ⟨raw, host, port, rfl, parseAddress_of_source hparse, rfl⟩
    · rintro (⟨h, -⟩ | ⟨_, host, port, hraw, hparse, rfl⟩)
      · cases h
      · cases hraw
        exact bind_eq_ok.2 ⟨_, parseAddress_of_source hparse, rfl⟩

/-- Pieces are read as their assignments exactly if all of them make one. -/
theorem parseDynamic_eq_ok_iff {ps : List (List Char)} {dynamic : Ordered String} :
    parseDynamic source (ps.map .ofList) = .ok dynamic ↔
      AllAssignments ps ∧ dynamic = .ofList (pieceAssignments ps) := by
  by_cases hall : AllAssignments ps
  · rw [parseDynamic_of_allAssignments source hall, Except.ok.injEq, eq_comm]
    exact (and_iff_right hall).symm
  · obtain ⟨f, hf, -⟩ := exists_of_not_allAssignments source hall
    rw [hf]
    exact ⟨nofun, fun h => absurd h.1 hall⟩

/-- The dynamic properties are read exactly when all pieces that are not blank are assignments and what these
assign can be converted. -/
theorem readDynamic_eq_ok_iff (hs : settings.StandardSession) {dynamic : Ordered String} :
    readDynamic settings source properties = .ok dynamic ↔
      ∃ ps, Text.Cut "@@".toList ((properties.get? "dynamicPropertiesString").getD "").toList ps ∧
        AllAssignments ps ∧ dynamic = .ofList (pieceAssignments ps) ∧
        ∃ c, Configuration.ofValues settings.tolerance (asValues dynamic) = .ok c := by
  constructor
  · intro h
    obtain ⟨ps, hps⟩ : ∃ ps, Text.Cut "@@".toList
        ((properties.get? "dynamicPropertiesString").getD "").toList ps :=
      ⟨_, (Text.cut_iff (by decide)).2 rfl⟩
    rw [readDynamic_eq hs hps] at h
    obtain ⟨d, hd, h⟩ := bind_eq_ok.1 h
    obtain ⟨⟨⟩, hcheck, h⟩ := bind_eq_ok.1 h
    cases h
    have ⟨hall, hdynamic⟩ := parseDynamic_eq_ok_iff.1 hd
    exact ⟨_, hps, hall, hdynamic, checkDynamic_eq_ok_iff.1 hcheck⟩
  · rintro ⟨ps, hps, hall, rfl, hc⟩
    rw [readDynamic_eq hs hps, parseDynamic_of_allAssignments source hall]
    exact bind_eq_ok.2 ⟨_, rfl, bind_eq_ok.2 ⟨(), checkDynamic_eq_ok_iff.2 hc, rfl⟩⟩

/-- The three keys are names, so lines can assign to them. -/
theorem isName_applicationId : IsName "applicationID" := ⟨'a', rfl, by decide⟩
theorem isName_jobManager : IsName "jobManager" := ⟨'j', rfl, by decide⟩
theorem isName_dynamicProperties : IsName "dynamicPropertiesString" := ⟨'d', rfl, by decide⟩

/-- **Reading a record.** A properties file is read as a record exactly if the last values of the three keys
give it. -/
theorem parse_eq_ok_iff (hs : settings.StandardSession) {r : SessionRecord} :
    parse settings source content = .ok r ↔ Reads settings.tolerance
      (lastAssigned? "applicationID" content) (lastAssigned? "jobManager" content)
      (lastAssigned? "dynamicPropertiesString" content) r := by
  rw [← get?_properties isName_applicationId, ← get?_properties isName_jobManager,
    ← get?_properties isName_dynamicProperties]
  constructor
  · intro h
    obtain ⟨id, hid, h⟩ := bind_eq_ok.1 h
    obtain ⟨address, haddress, h⟩ := bind_eq_ok.1 h
    obtain ⟨dynamic, hdynamic, h⟩ := bind_eq_ok.1 h
    cases h
    refine ⟨(readId_eq_ok_iff hs).1 hid, ?_, (readDynamic_eq_ok_iff hs).1 hdynamic⟩
    rcases (readAddress_eq_ok_iff hs).1 haddress with ⟨hnone, rfl⟩ | ⟨raw, host, port, hraw, hparse, rfl⟩
    · exact .inl ⟨hnone, rfl, rfl⟩
    · exact .inr ⟨raw, host, port, hraw, hparse, rfl, rfl⟩
  · rintro ⟨hid, haddress, hdynamic⟩
    obtain ⟨id, address, port, dynamic⟩ := r
    have hread : ∃ a, readAddress settings source (properties content) = .ok a ∧
        address = a.map Prod.fst ∧ port = a.map Prod.snd := by
      rcases haddress with ⟨hnone, haddress, hport⟩ | ⟨raw, host, port, hraw, hparse, haddress, hport⟩
      · exact ⟨none, (readAddress_eq_ok_iff hs).2 (.inl ⟨hnone, rfl⟩), haddress, hport⟩
      · exact ⟨some (host, port), (readAddress_eq_ok_iff hs).2 (.inr ⟨raw, host, port, hraw, hparse, rfl⟩),
          haddress, hport⟩
    obtain ⟨a, ha, rfl, rfl⟩ := hread
    exact bind_eq_ok.2 ⟨id, (readId_eq_ok_iff hs).2 hid, bind_eq_ok.2 ⟨a, ha,
      bind_eq_ok.2 ⟨dynamic, (readDynamic_eq_ok_iff hs).2 hdynamic, rfl⟩⟩⟩

/-! ## Acceptance -/

/-- The text of a properties file follows the grammar: the last value of the application ID is one, that of
the address is one if it has any, and the pieces of that of the dynamic properties are blank or assignments, of
which the last one of each known key can be converted. -/
structure Accepts (content : String) : Prop where
  id : ∃ s, lastAssigned? "applicationID" content = some s ∧ ApplicationId.IsIdText s.toList
  address : ∀ s, lastAssigned? "jobManager" content = some s → IsAddressText s.toList
  dynamic : ∃ ps, Text.Cut "@@".toList ((lastAssigned? "dynamicPropertiesString" content).getD "").toList ps ∧
    AllAssignments ps ∧ Convertible (pieceAssignments ps)

/-- No run of digits of the text is too long, and the last value of a dynamic property that is a duration is
not too long a one. -/
structure WithinLimits (content : String) : Prop where
  runs : Text.ShortRuns content.toList
  durations : ∀ ps,
    Text.Cut "@@".toList ((lastAssigned? "dynamicPropertiesString" content).getD "").toList ps →
    ∀ key o v, ConfigOption.known? key = some o → o.type = .duration →
      lastValue? key (pieceAssignments ps) = some v → Duration.Fits v

/-- Whether the application ID is read, and that a failure is one of the file. -/
theorem checks_readId (hs : settings.StandardSession)
    (hvalue : ∀ s, properties.get? "applicationID" = some s →
      Text.Trimmed s.toList ∧ Text.ShortRuns s.toList) :
    Checks (∃ s, properties.get? "applicationID" = some s ∧ ApplicationId.IsIdText s.toList)
      (readId settings source content properties) := by
  rw [readId_eq hs]
  cases hid : properties.get? "applicationID" with
  | none => exact .of_error (by simp) rfl
  | some raw =>
    have ⟨htrimmed, hruns⟩ := hvalue raw hid
    exact (checks_parseId source htrimmed hruns).congr (by simp)

/-- The same of the address. -/
theorem checks_readAddress (hs : settings.StandardSession)
    (hvalue : ∀ s, properties.get? "jobManager" = some s →
      Text.Trimmed s.toList ∧ Text.ShortRuns s.toList) :
    Checks (∀ s, properties.get? "jobManager" = some s → IsAddressText s.toList)
      (readAddress settings source properties) := by
  rw [readAddress_eq hs]
  cases haddress : properties.get? "jobManager" with
  | none => exact .of_ok nofun
  | some raw =>
    have ⟨htrimmed, hruns⟩ := hvalue raw haddress
    exact ((checks_parseAddress source htrimmed hruns).map some).congr (by simp)

/-- The same of the dynamic properties, as long as their values are within the limits of the options. -/
theorem checks_readDynamic (hs : settings.StandardSession) {ps : List (List Char)}
    (hps : Text.Cut "@@".toList ((properties.get? "dynamicPropertiesString").getD "").toList ps)
    (hlimits : ∀ key o v, ConfigOption.known? key = some o →
      lastValue? key (pieceAssignments ps) = some v → o.WithinLimits v) :
    Checks (AllAssignments ps ∧ Convertible (pieceAssignments ps))
      (readDynamic settings source properties) := by
  rw [readDynamic_eq hs hps]
  by_cases hall : AllAssignments ps
  · rw [parseDynamic_of_allAssignments source hall]
    exact ((checks_checkDynamic settings.tolerance source hlimits).map fun _ => _).congr
      (and_iff_right hall).symm
  · obtain ⟨f, hf, hfamily⟩ := exists_of_not_allAssignments source hall
    rw [hf]
    exact .of_error (fun h => hall h.1) hfamily

/-- Below the limits of a file all its dynamic properties are below those of their options. -/
theorem WithinLimits.option (h : WithinLimits content) {ps : List (List Char)}
    (hps : Text.Cut "@@".toList ((lastAssigned? "dynamicPropertiesString" content).getD "").toList ps)
    {key : String} {o : ConfigOption} {v : String} (ho : ConfigOption.known? key = some o)
    (hv : lastValue? key (pieceAssignments ps) = some v) : o.WithinLimits v := by
  have hruns : Text.ShortRuns v.toList := by
    obtain ⟨-, p, hp, hvp⟩ := value_of_lastValue? hv
    have hraw := hps.infix_of_mem (List.mem_filter.1 hp).1
    refine h.runs.mono ((hvp.trans hraw).trans ?_)
    cases hlast : lastAssigned? "dynamicPropertiesString" content with
    | none => exact List.nil_infix
    | some raw => exact (value_of_lastAssigned? hlast).2
  rw [ConfigOption.WithinLimits]
  split
  · exact hruns
  · next htype => exact ⟨hruns, h.durations ps hps key o v ho htype hv⟩
  · trivial

/-- A file within the limits is accepted by the grammar or fails as a file does. -/
theorem checks_parse (hs : settings.StandardSession) (h : WithinLimits content) :
    Checks (Accepts content) (parse settings source content) := by
  have hvalue {key : String} (hname : IsName key) (s : String)
      (hget : (SessionRecord.properties content).get? key = some s) :
      Text.Trimmed s.toList ∧ Text.ShortRuns s.toList := by
    rw [get?_properties hname] at hget
    have ⟨htrimmed, hpart⟩ := value_of_lastAssigned? hget
    exact ⟨htrimmed, h.runs.mono hpart⟩
  obtain ⟨ps, hps⟩ : ∃ ps, Text.Cut "@@".toList
      ((lastAssigned? "dynamicPropertiesString" content).getD "").toList ps :=
    ⟨_, (Text.cut_iff (by decide)).2 rfl⟩
  have hps' := hps
  rw [← get?_properties isName_dynamicProperties] at hps'
  have hid : Checks _ (readId settings source content (SessionRecord.properties content)) :=
    checks_readId hs (hvalue isName_applicationId)
  have haddress : Checks _ (readAddress settings source (SessionRecord.properties content)) :=
    checks_readAddress hs (hvalue isName_jobManager)
  have hdynamic : Checks _ (readDynamic settings source (SessionRecord.properties content)) :=
    checks_readDynamic hs hps' fun key o v => h.option hps
  have hsteps := hid.bind fun id _ => haddress.bind fun address _ => hdynamic.map fun dynamic =>
    (⟨id, address.map Prod.fst, address.map Prod.snd, dynamic⟩ : SessionRecord)
  rw [get?_properties isName_applicationId, get?_properties isName_jobManager] at hsteps
  refine Checks.congr hsteps ⟨fun ⟨hid, haddress, hall, hconvertible⟩ => ?_, fun hgrammar => ?_⟩
  · exact ⟨hid, haddress, ps, hps, hall, hconvertible⟩
  · obtain ⟨hid, haddress, ps', hps', hall, hconvertible⟩ := hgrammar
    obtain rfl := hps.unique hps'
    exact ⟨hid, haddress, hall, hconvertible⟩

/-- **The grammar of properties files.** Within the limits of numbers a properties file is read exactly if its
text follows the grammar, and it is a failure of the file otherwise. Two texts in which the last values of the
three keys are the same are read as the same record, if they are read at all. -/
theorem parse_grammar (hs : settings.StandardSession) (source content : String) :
    (WithinLimits content →
      ((∃ r, parse settings source content = .ok r) ↔ Accepts content) ∧
      (¬ Accepts content → ∃ f, parse settings source content = .error f ∧ f.family = .session)) ∧
    ∀ source' content',
      (∀ key ∈ ["applicationID", "jobManager", "dynamicPropertiesString"],
        lastAssigned? key content' = lastAssigned? key content) →
      ∀ r, parse settings source' content' = .ok r ↔ parse settings source content = .ok r := by
  refine ⟨fun h => ⟨(checks_parse hs h).iff, (checks_parse hs h).rejected⟩, fun source' content' h r => ?_⟩
  rw [parse_eq_ok_iff hs, parse_eq_ok_iff hs, h _ (by simp), h _ (by simp), h _ (by simp)]

/-- A file with a comment, an address and three pieces of dynamic properties, one of them blank. -/
def sampleText : String :=
  "# session\napplicationID = application_17_3\njobManager=host:6123\n"
    ++ "dynamicPropertiesString=taskmanager.numberOfTaskSlots=4@@ @@a="

/-- What a sample file assigns to the three keys. -/
theorem lastAssigned?_sampleText :
    lastAssigned? "applicationID" sampleText = some "application_17_3" ∧
    lastAssigned? "jobManager" sampleText = some "host:6123" ∧
    lastAssigned? "dynamicPropertiesString" sampleText =
      some "taskmanager.numberOfTaskSlots=4@@ @@a=" := by
  have hlines : (Text.lines sampleText.toList).filterMap assigned? =
      [("applicationID", "application_17_3"), ("jobManager", "host:6123"),
        ("dynamicPropertiesString", "taskmanager.numberOfTaskSlots=4@@ @@a=")] := by
    decide +kernel
  simp only [lastAssigned?, hlines]
  exact ⟨rfl, rfl, rfl⟩

/-- The sample follows the grammar and is read. -/
theorem exists_parse_sampleText : WithinLimits sampleText ∧ Accepts sampleText ∧
    ∃ r, parse .standard "session" sampleText = .ok r := by
  have ⟨hid, haddress, hdynamic⟩ := lastAssigned?_sampleText
  have hcut : Text.Cut "@@".toList ((lastAssigned? "dynamicPropertiesString" sampleText).getD "").toList
      ["taskmanager.numberOfTaskSlots=4".toList, " ".toList, "a=".toList] := by
    rw [hdynamic, Text.cut_iff (by decide)]
    decide +kernel
  have hpieces : pieceAssignments
      ["taskmanager.numberOfTaskSlots=4".toList, " ".toList, "a=".toList] =
      [("taskmanager.numberOfTaskSlots", "4"), ("a", "")] := by decide +kernel
  -- the only known key is that of the slots
  have hslots {key v : String} {o : ConfigOption} (ho : ConfigOption.known? key = some o)
      (hv : lastValue? key [("taskmanager.numberOfTaskSlots", "4"), ("a", "")] = some v) :
      o = .slots ∧ v = "4" := by
    have hm := List.mem_reverse.1 (Ordered.mem_of_lookup hv)
    simp only [List.mem_cons, Prod.mk.injEq, List.not_mem_nil, or_false] at hm
    rcases hm with ⟨rfl, rfl⟩ | ⟨rfl, rfl⟩
    · exact ⟨(Option.some.inj ho).symm, rfl⟩
    · cases ho
  have hlimits : WithinLimits sampleText := by
    refine ⟨.of_length (by decide +kernel), fun ps hps key o v ho htype hv => ?_⟩
    obtain rfl := hps.unique hcut
    rw [hpieces] at hv
    obtain ⟨rfl, -⟩ := hslots ho hv
    cases htype
  have haccepts : Accepts sampleText := by
    refine ⟨⟨_, hid, "17".toList, "3".toList, by decide, by decide,
        List.all_eq_true.1 (by decide), List.all_eq_true.1 (by decide), rfl⟩,
      fun s hs => ?_, _, hcut, fun p hp hblank => ?_, fun key o v ho hv => ?_⟩
    · cases haddress.symm.trans hs
      exact ⟨"host".toList, "6123".toList, by decide, by decide, List.all_eq_true.1 (by decide), rfl⟩
    · simp only [List.mem_cons, List.not_mem_nil, or_false] at hp
      rcases hp with rfl | rfl | rfl
      · exact ⟨"taskmanager.numberOfTaskSlots".toList, "4".toList, by decide,
          fun h => absurd (h 't' (by decide)) (by decide), rfl⟩
      · exact absurd (fun c hc => by cases List.mem_singleton.1 hc; decide) hblank
      · exact ⟨"a".toList, [], by decide, fun h => absurd (h 'a' (by decide)) (by decide), rfl⟩
    · rw [hpieces] at hv
      obtain ⟨rfl, rfl⟩ := hslots ho hv
      exact ⟨.int 4, rfl⟩
  exact ⟨hlimits, haccepts,
    ((parse_grammar Settings.standardSession_standard "session" sampleText).1 hlimits).1.2 haccepts⟩

end SessionRecord

end ClusterPlan
