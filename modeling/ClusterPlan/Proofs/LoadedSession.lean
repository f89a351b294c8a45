import ClusterPlan.Proofs.Precedence

/-!
# Session records that were loaded

A properties file is checked when it is loaded, and what it sets is worked out when it takes part in a
resolution. The check covers all of it: the configuration of a record that was loaded has the dynamic
properties, each converted to the type of its option, and on top of them the application and the address
(`SessionRecord.Recovered`). A resolution that succeeds without a record has written all that its sources
set (`writable_of_resolve`), so it succeeds with the record as well. Both are the main statement
`SessionRecord.parse_loaded`.
-/

namespace ClusterPlan

section
variable {tolerance : Tolerance}

/-! ## What a resolution that succeeds has written -/

/-- Of two equal values of one type both can be written or neither can. -/
theorem OptionType.isWritable_of_same {t : OptionType} {v w : Value} (hv : t.holds v = true)
    (hw : t.holds w = true) (h : v.same w = true) (hwritable : w.isWritable = true) :
    v.isWritable = true := by
  cases t with
  | string => cases v with
    | str s => rfl
    | _ => cases hv
  | boolean => cases v with
    | bool b => rfl
    | _ => cases hv
  | duration => cases v with
    | duration d => rfl
    | _ => cases hv
  | integer => cases v with
    | int i => cases w with
      | int j =>
        obtain rfl : i = j := by simpa [Value.same, Value.sameScalar, Value.asInt?] using h
        exact hwritable
      | _ => cases hw
    | _ => cases hv
  | memory => cases v with
    | memory m => cases w with
      | memory n =>
        obtain rfl : m = n := by simpa [Value.same, Value.sameScalar] using h
        exact hwritable
      | _ => cases hw
    | _ => cases hv
  | list => cases v with
    | list items =>
      obtain ⟨ss, rfl⟩ := ConfigOption.exists_map_str hv
      exact Value.isWritable_texts ss
    | _ => cases hv

/-- The options and the overrides of a resolution that succeeds can be written. -/
theorem writable_of_resolve {base c : Configuration} {session : Option SessionRecord}
    {overlay : Overlay} (h : resolve tolerance base session overlay = .ok c) :
    overlay.dynamic.Writable ∧ ∃ T, overlay.toConfiguration tolerance = .ok T ∧ T.Writable := by
  obtain ⟨S, T, -, hT, hlayered, hw, lower, hlower, htrace⟩ := layered_of_resolve h
  have ⟨_, htrace⟩ := Configuration.traceOverrides_eq_ok_iff.1 htrace
  have hD : overlay.dynamic.Writable := fun k v hv => by
    refine hw k v ?_
    rw [hlayered.get?, hv, Option.some_or, Option.some_or, Option.some_or, Option.some_or]
  refine ⟨hD, T, hT, fun k v hv => ?_⟩
  cases hk : overlay.dynamic.get? k with
  | none =>
    refine hw k v ?_
    rw [hlayered.get?, hk, hv, Option.none_or, Option.some_or, Option.some_or, Option.some_or]
  | some w =>
    -- the value was overridden, so it was written unless it is equal to the override
    cases hsame : v.same w with
    | false =>
      have hold : lower.get? k = some v := by rw [hlower, hv, Option.some_or]
      exact (htrace (k, w) (Ordered.get?_eq_some_iff.1 hk) v hold hsame).1
    | true =>
      obtain ⟨o, ho, rfl, hholds⟩ := Overlay.exists_option_of_toConfiguration hT hv
      exact OptionType.isWritable_of_same hholds (Configuration.holds_of_get? ho hk) hsame (hD _ w hk)

/-- Overrides that took part in a resolution without a session record can be compared with the base. -/
theorem comparable_of_resolve {base c : Configuration} {overlay : Overlay}
    (h : resolve tolerance base none overlay = .ok c) : base.Comparable overlay.dynamic.entries := by
  obtain ⟨S, T, hS, hT, -, -, lower, hlower, htrace⟩ := layered_of_resolve h
  obtain rfl : Configuration.empty = S := Except.ok.inj hS
  have ⟨hcompare, _⟩ := Configuration.traceOverrides_eq_ok_iff.1 htrace
  intro e he old hold
  cases hk : T.get? e.1 with
  | none =>
    refine hcompare e he old ?_
    rw [hlower, hk, Option.none_or]
    exact hold
  | some v =>
    -- what an option sets is known, so the override is of the type of a known option
    obtain ⟨o, ho, hkey, -⟩ := Overlay.exists_option_of_toConfiguration hT hk
    have hnew : overlay.dynamic.get? o.key = some e.2 := hkey ▸ Ordered.get?_eq_some_iff.2 he
    exact Value.isEndless_isFinite old <|
      ConfigOption.isFinite_of_holds (Configuration.holds_of_get? ho hnew)

/-! ## What a record sets -/

namespace SessionRecord

/-- The keys that a record sets besides its dynamic properties. -/
def ownKeys (address : Option (String × Int)) : List String :=
  ConfigOption.applicationId.key ::
    if address.isSome then [ConfigOption.masterAddress.key, ConfigOption.masterPort.key] else []

/-- A configuration holds dynamic properties with an application and an address on top. -/
structure Recovered (tolerance : Tolerance) (dynamic : Ordered String) (id : String)
    (address : Option (String × Int)) (c : Configuration) : Prop where
  applicationId : c.get? ConfigOption.applicationId.key = some (.str id)
  masterAddress : ∀ host port, address = some (host, port) →
    c.get? ConfigOption.masterAddress.key = some (.str host) ∧
    c.get? ConfigOption.masterPort.key = some (.int port)
  /-- Any other property is converted to the type of its option. -/
  converted : ∀ k s, k ∉ ownKeys address → dynamic.get? k = some s →
    ∃ v, Configuration.convertEntry tolerance k (.str s) = .ok v ∧ c.get? k = some v
  /-- No other key is there; the dynamic properties come first, in their order. -/
  keys : c.keys = (dynamic.keys ++ ownKeys address).eraseDups

/-- A record whose dynamic properties can be converted sets them and its application and address. -/
theorem exists_recovered {clusterId : ApplicationId} {dynamic : Ordered String} {id : String}
    {d : Configuration} (address : Option (String × Int)) (hid : clusterId.text = .ok id)
    (hd : Configuration.ofValues tolerance (asValues dynamic) = .ok d) :
    ∃ c, toConfiguration tolerance ⟨clusterId, address.map Prod.fst, address.map Prod.snd, dynamic⟩ =
      .ok c ∧ Recovered tolerance dynamic id address c := by
  let r : SessionRecord := ⟨clusterId, address.map Prod.fst, address.map Prod.snd, dynamic⟩
  obtain ⟨c, hc, hv⟩ : ∃ c, (r.choices id).apply tolerance d = .ok c ∧ _ :=
    Choices.exists_apply (r.hold_choices id) d
  have hown : (r.choices id).entries.map Prod.fst = ownKeys address := by
    cases address <;> rfl
  have hget {o : ConfigOption} {v : Value} (hm : (o, some v) ∈ r.choices id) :
      c.get? o.key = some v := by
    rw [Choices.get?_of_mem (r.distinct_choices id) hv hm, Option.some_or]
  have htraverse := Configuration.ofValues_eq_ok_iff.1 hd
  refine ⟨c, ?_, hget (o := .applicationId) List.mem_cons_self, ?_, fun k s hk hs => ?_, ?_⟩
  · rw [toConfiguration_eq, hd, hid]
    exact hc
  · rintro host port rfl
    exact ⟨hget (o := .masterAddress) (by simp [choices, r]), hget (o := .masterPort) (by simp [choices, r])⟩
  · have hstr : (asValues dynamic).get? k = some (.str s) := by
      rw [asValues, Ordered.get?_map, hs]
      rfl
    obtain ⟨v, hconv, hget'⟩ := Ordered.get?_of_traverse htraverse hstr
    have hnone : Ordered.lookup k (r.choices id).entries.reverse = none := by
      rw [Ordered.lookup_eq_none_iff, List.map_reverse, List.mem_reverse, hown]
      exact hk
    refine ⟨v, hconv, ?_⟩
    rw [Configuration.get?, hv, Ordered.get?_putAll, hnone, Option.none_or]
    exact hget'
  · have hkeys : d.keys = dynamic.keys := by
      rw [Configuration.keys, Ordered.keys_of_traverse htraverse, asValues, Ordered.keys_of_map]
    rw [Configuration.keys, hv, Ordered.keys_putAll, hown]
    exact congrArg (fun ks => (ks ++ ownKeys address).eraseDups) hkeys

/-- **A record that was loaded does not break a resolution.** The configuration of a record that was read
from a text can be made. It holds the dynamic properties, each converted to the type of its option, but
under the key of the application the text of the ID of the record, and, if the text gives an address, its
host and port under theirs. And if the numbers in the record and in the base can be written, options with
which the base can be resolved without a record can be resolved with this record too. -/
theorem parse_loaded {settings : Settings} {source content : String} {r : SessionRecord}
    (h : parse settings source content = .ok r) (tolerance : Tolerance) :
    ∃ id address c, r.clusterId.text = .ok id ∧ ApplicationId.parse id = .ok r.clusterId ∧
      readAddress settings source (properties content) = .ok address ∧
      r.toConfiguration tolerance = .ok c ∧
      Recovered tolerance r.dynamic id address c ∧
      ∀ base overlay, base.Writable → r.Writable →
        (∃ d, resolve tolerance base none overlay = .ok d) →
        ∃ d, resolve tolerance base (some r) overlay = .ok d := by
  have hr : r.Accepted := ⟨settings, source, content, h⟩
  obtain ⟨id, hid, hparse⟩ := hr.exists_text
  obtain ⟨d, hd⟩ := hr.exists_ofValues tolerance
  obtain ⟨clusterId, -, h⟩ := bind_eq_ok.1 h
  obtain ⟨address, haddress, h⟩ := bind_eq_ok.1 h
  obtain ⟨dynamic, -, h⟩ := bind_eq_ok.1 h
  cases h
  obtain ⟨c, hc, hrecovered⟩ := exists_recovered address hid hd
  refine ⟨id, address, c, hid, hparse, haddress, hc, hrecovered, fun base overlay hb hw hnone => ?_⟩
  obtain ⟨d, hd⟩ := hnone
  obtain ⟨hD, T, hT, hTw⟩ := writable_of_resolve hd
  obtain ⟨S, d', -, hd', -⟩ := exists_resolve_of_writable tolerance hb
    (fun r' hr' => Option.some.inj hr' ▸ ⟨hr, hw⟩) hT hTw hD (comparable_of_resolve hd)
  exact ⟨d', hd'⟩

/-- A record whose dynamic properties name a host too. -/
theorem parse_loaded_of_overlap : ∃ r c d, parse .standard "file"
      ("applicationID=application_1_0001\njobManager=h:80\n"
        ++ "dynamicPropertiesString=jobmanager.rpc.address=x") = .ok r ∧
    r.dynamic.get? "jobmanager.rpc.address" = some "x" ∧
    r.toConfiguration .standard = .ok c ∧
    c.get? "yarn.application.id" = some (.str "application_1_0001") ∧
    c.get? "jobmanager.rpc.address" = some (.str "h") ∧
    c.keys = ["jobmanager.rpc.address", "yarn.application.id", "jobmanager.rpc.port"] ∧
    resolve .standard .empty (some r) {} = .ok d := by
  let content := "applicationID=application_1_0001\njobManager=h:80\n"
    ++ "dynamicPropertiesString=jobmanager.rpc.address=x"
  have hparsed : (parse .standard "file" content).toOption.map (fun r =>
      (r.clusterId, r.dynamic.entries)) = some (⟨1, 1⟩, [("jobmanager.rpc.address", "x")]) := by
    decide +kernel
  have hread : readAddress .standard "file" (properties content) = .ok (some ("h", 80)) :=
    toOption_eq_some_iff.1 (by decide +kernel)
  obtain ⟨⟨clusterId, masterAddress, masterPort, dynamic⟩, hr, hfields⟩ :=
    Option.map_eq_some_iff.1 hparsed
  obtain ⟨rfl, hentries⟩ := Prod.mk.inj hfields
  obtain rfl : dynamic = .single "jobmanager.rpc.address" "x" := Ordered.ext hentries
  have hrw : Writable ⟨⟨1, 1⟩, masterAddress, masterPort, .single "jobmanager.rpc.address" "x"⟩ := by
    intro tolerance c hc
    rw [Configuration.writable_iff]
    cases hc
    exact ⟨_, rfl⟩
  obtain ⟨id, address, c, hid, -, haddress, hc, hrecovered, hresolve⟩ :=
    parse_loaded (toOption_eq_some_iff.1 hr) .standard
  obtain rfl := Except.ok.inj (haddress.symm.trans hread)
  obtain rfl : id = "application_1_0001" := by
    have hlength : ['1'].length ≤ Text.digitLimit := by decide
    have hone : Text.isWritable ((1 : Nat) : Int) = true := @Text.isWritable_ofDigits ['1'] hlength
    exact Except.ok.inj (hid.symm.trans (ApplicationId.text_eq_ok hone hone))
  obtain ⟨d, hd⟩ := hresolve .empty {} (fun _ _ => nofun) hrw ⟨_, rfl⟩
  exact ⟨_, c, d, toOption_eq_some_iff.1 hr, rfl, hc, hrecovered.applicationId,
    (hrecovered.masterAddress _ _ rfl).1, hrecovered.keys.trans rfl, hd⟩

end SessionRecord

end

end ClusterPlan
