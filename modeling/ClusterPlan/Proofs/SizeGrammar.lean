import ClusterPlan.Memory
import ClusterPlan.Proofs.Digits
import ClusterPlan.Proofs.Quantity
import Mathlib.Tactic.Ring

/-!
# The grammar of memory sizes

A text gives a number of a unit of memory when it measures a run of digits that denotes the number in a unit by
that name (`MemorySize.Gives`). A text is read as a size exactly if it gives a number that is not zero
(`MemorySize.parse_eq_ok_iff`), and everything else is a failure of memory, except for a run of digits beyond
the limit (`MemorySize.parse_eq_error`). `MemorySize.parse_exact` puts this together with the order of the sizes
of one unit and the ratio of two units.
-/

namespace ClusterPlan

namespace MemoryUnit

/-- The names of a unit in small letters. No name means megabytes. -/
def names : MemoryUnit → List String
  | byte => ["b", "bytes"]
  | kilo => ["k", "kb", "kibibytes"]
  | mega => ["", "m", "mb", "mebibytes"]
  | giga => ["g", "gb", "gibibytes"]
  | tera => ["t", "tb", "tebibytes"]

/-- The power of 1024 that a unit stands for. -/
def power : MemoryUnit → Nat
  | byte => 0
  | kilo => 1
  | mega => 2
  | giga => 3
  | tera => 4

theorem factor_eq (u : MemoryUnit) : u.factor = 1024 ^ u.power := by
  cases u <;> rfl

/-- A unit is found by its names and by no others. -/
theorem ofName?_eq_some_iff {name : String} {u : MemoryUnit} : ofName? name = some u ↔ name ∈ u.names := by
  constructor
  · intro h
    simp only [ofName?] at h
    split_ifs at h with hbyte hkilo hmega hgiga htera <;> cases h
    · exact hbyte
    · exact hkilo
    · exact hmega
    · exact hgiga
    · exact htera
  · have hfound : ∀ n ∈ u.names, ofName? n = some u := by cases u <;> decide
    exact hfound name

theorem isLetter_of_mem_symbol (u : MemoryUnit) : ∀ c ∈ u.symbol.toList, Text.isLetter c = true :=
  List.all_eq_true.1 (by cases u <;> decide)

theorem symbol_mem_names (u : MemoryUnit) : String.ofList (u.symbol.toList.map Char.toLower) ∈ u.names := by
  cases u <;> decide

end MemoryUnit

namespace MemorySize

/-- The text gives a number of a unit. -/
def Gives (s : String) (u : MemoryUnit) (n : Nat) : Prop :=
  ∃ ds, Text.Measures u.names ds s ∧ n = Text.ofDigits ds

/-- The digits of the text, if it spells a quantity, are within the limit. -/
def ShortNumber (s : String) : Prop :=
  ∀ q : Text.Quantity, q.Spells s.toList → q.digits.length ≤ Text.digitLimit

variable {s t : String} {m : MemorySize} {u v : MemoryUnit} {n k : Nat}

/-- A short text has a short number. -/
theorem ShortNumber.of_length (h : s.toList.length ≤ Text.digitLimit) : ShortNumber s :=
  fun _ hq => Nat.le_trans hq.infix.length_le h

theorem ShortNumber.length_le (h : ShortNumber s) {ds : List Char} (hm : Text.Measures u.names ds s) :
    ds.length ≤ Text.digitLimit := by
  obtain ⟨letters, hspells, -⟩ := hm
  exact h _ hspells

/-- A text gives one number of one unit at most. -/
theorem Gives.unique (h : Gives s u n) (h' : Gives s v k) : u = v ∧ n = k := by
  obtain ⟨ds, ⟨letters, hspells, hname⟩, rfl⟩ := h
  obtain ⟨ds', ⟨letters', hspells', hname'⟩, rfl⟩ := h'
  cases hspells.unique hspells'
  have hu := MemoryUnit.ofName?_eq_some_iff.2 hname
  rw [MemoryUnit.ofName?_eq_some_iff.2 hname'] at hu
  exact ⟨(Option.some.inj hu).symm, rfl⟩

/-! ## Reading -/

/-- A text that measures digits in a unit is read by them. -/
theorem parse_of_measures {ds : List Char} (h : Text.Measures u.names ds s) :
    parse s = readDigits ds >>= fun n => if n = 0 then .error (.memoryNotPositive s) else .ok ⟨n * u.factor⟩ := by
  obtain ⟨letters, hspells, hname⟩ := h
  have hunit : MemoryUnit.ofName? (⟨ds, letters⟩ : Text.Quantity).unitName = some u :=
    MemoryUnit.ofName?_eq_some_iff.2 hname
  rw [parse, Text.Quantity.read?_of_spells hspells]
  simp only [hunit]

/-- A text that measures nothing is a failure of memory. -/
theorem parse_of_not_measures (h : ∀ u ds, ¬ Text.Measures (MemoryUnit.names u) ds s) :
    ∃ f, parse s = .error f ∧ f.family = .memory := by
  unfold parse
  split
  · exact ⟨_, rfl, rfl⟩
  · next q hq =>
    split
    · exact ⟨_, rfl, rfl⟩
    · next u hu =>
      exact absurd ⟨q.unit, Text.Quantity.spells_of_read? hq, MemoryUnit.ofName?_eq_some_iff.1 hu⟩ (h u q.digits)

theorem parse_eq_ok_iff : parse s = .ok m ↔ ∃ u ds, Text.Measures (MemoryUnit.names u) ds s ∧
    ds.length ≤ Text.digitLimit ∧ Text.ofDigits ds ≠ 0 ∧ m.bytes = Text.ofDigits ds * u.factor := by
  constructor
  · intro h
    by_cases hm : ∃ u ds, Text.Measures (MemoryUnit.names u) ds s
    · obtain ⟨u, ds, hm⟩ := hm
      rw [parse_of_measures hm] at h
      obtain ⟨n, hn, h⟩ := bind_eq_ok.1 h
      obtain ⟨hl, rfl⟩ := readDigits_eq_ok_iff.1 hn
      split at h
      · cases h
      · next hpos => cases h; exact ⟨u, ds, hm, hl, hpos, rfl⟩
    · obtain ⟨f, hf, -⟩ := parse_of_not_measures fun u ds hd => hm ⟨u, ds, hd⟩
      rw [hf] at h
      cases h
  · rintro ⟨u, ds, hm, hl, hpos, hbytes⟩
    obtain ⟨bytes⟩ := m
    obtain rfl := hbytes
    rw [parse_of_measures hm]
    exact bind_eq_ok.2 ⟨_, readDigits_eq_ok_iff.2 ⟨hl, rfl⟩, if_neg hpos⟩

/-- What is wrong with a text that is no size: a failure of memory, or too many digits. -/
theorem parse_eq_error {f : Failure} (h : parse s = .error f) : f.family = .memory ∨
    ∃ q : Text.Quantity, q.Spells s.toList ∧ readDigits q.digits = .error f := by
  by_cases hm : ∃ u ds, Text.Measures (MemoryUnit.names u) ds s
  · obtain ⟨u, ds, hm⟩ := hm
    rw [parse_of_measures hm] at h
    obtain ⟨letters, hspells, -⟩ := hm
    cases hn : readDigits ds with
    | error e =>
      rw [hn] at h
      cases h
      exact .inr ⟨_, hspells, hn⟩
    | ok n =>
      rw [hn] at h
      simp only [bind, Except.bind] at h
      split at h <;> cases h
      exact .inl rfl
  · obtain ⟨g, hg, hfamily⟩ := parse_of_not_measures fun u ds hd => hm ⟨u, ds, hd⟩
    cases hg.symm.trans h
    exact .inl hfamily

/-- A size that is read is positive. -/
theorem pos_of_parse (h : parse s = .ok m) : 0 < m.bytes := by
  obtain ⟨u, ds, -, -, hpos, hbytes⟩ := parse_eq_ok_iff.1 h
  rw [hbytes]
  exact_mod_cast Nat.mul_pos (Nat.pos_of_ne_zero hpos) u.factor_pos

/-- Digits and the name of a unit are read as the size. -/
theorem parse_written (hn : n ≠ 0) (hw : Text.isWritable n = true) {letters : List Char}
    (hletters : ∀ c ∈ letters, Text.isLetter c = true)
    (hname : String.ofList (letters.map Char.toLower) ∈ u.names) :
    parse (toString n ++ String.ofList letters) = .ok ⟨n * u.factor⟩ := by
  have hmeasures : Text.Measures u.names (Nat.toDigits 10 n) (toString n ++ String.ofList letters) :=
    @Text.measures_written u.names [] letters n (.inl rfl) hletters hname
  refine parse_eq_ok_iff.2 ⟨u, _, hmeasures, Text.length_toDigits_le hw, ?_⟩
  rw [Text.ofDigits_toDigits]
  exact ⟨hn, rfl⟩

/-- So are digits and the symbol of a unit. -/
theorem parse_symbol (hn : 1 ≤ n) (hw : Text.isWritable n = true) (u : MemoryUnit) :
    parse (toString n ++ u.symbol) = .ok ⟨n * u.factor⟩ := by
  have hread := parse_written (Nat.ne_of_gt hn) hw u.isLetter_of_mem_symbol u.symbol_mem_names
  rwa [String.ofList_toList] at hread

/-! ## Numbers of units -/

/-- Below the limit a text that gives a number of a unit is read as that, and only such a text is read. -/
theorem parse_eq_ok_iff_gives (hs : ShortNumber s) :
    parse s = .ok m ↔ ∃ u n, Gives s u n ∧ 1 ≤ n ∧ m.bytes = n * 1024 ^ u.power := by
  rw [parse_eq_ok_iff]
  constructor
  · rintro ⟨u, ds, hm, -, hpos, hbytes⟩
    refine ⟨u, _, ⟨ds, hm, rfl⟩, Nat.pos_of_ne_zero hpos, ?_⟩
    rw [hbytes, u.factor_eq, Int.natCast_pow]
    rfl
  · rintro ⟨u, n, ⟨ds, hm, rfl⟩, hpos, hbytes⟩
    refine ⟨u, ds, hm, hs.length_le hm, Nat.ne_of_gt hpos, ?_⟩
    rw [hbytes, u.factor_eq, Int.natCast_pow]
    rfl

/-- Below the limit everything else is a failure of memory. -/
theorem family_of_parse_eq_error (hs : ShortNumber s) {f : Failure} (h : parse s = .error f) :
    f.family = .memory := by
  rcases parse_eq_error h with hf | ⟨q, hq, hf⟩
  · exact hf
  · rw [readDigits, if_pos (hs q hq)] at hf
    cases hf

/-- A size that is read from a number of a unit has as many bytes. -/
theorem Gives.bytes_of_parse (h : Gives s u n) (hm : parse s = .ok m) : m.bytes = n * u.factor := by
  obtain ⟨v, ds, hv, -, -, hbytes⟩ := parse_eq_ok_iff.1 hm
  obtain ⟨rfl, rfl⟩ := h.unique ⟨ds, hv, rfl⟩
  exact hbytes

/-- Sizes of one unit have the order of their numbers. -/
theorem lt_iff_of_gives {a b : MemorySize} (hs : Gives s u n) (ht : Gives t u k) (ha : parse s = .ok a)
    (hb : parse t = .ok b) : a.lt b = true ↔ n < k := by
  have hpos : (0 : Int) < u.factor := Int.natCast_pos.2 u.factor_pos
  rw [lt, decide_eq_true_iff, hs.bytes_of_parse ha, ht.bytes_of_parse hb, Int.mul_lt_mul_right hpos,
    Int.ofNat_lt]

/-- A number of a unit is 1024 times as many of the next smaller one. -/
theorem parse_of_next_unit (hpower : u.power = v.power + 1) (hs : Gives s u n) (ht : Gives t v (1024 * n))
    (hs' : ShortNumber s) (ht' : ShortNumber t) : parse s = .ok m ↔ parse t = .ok m := by
  have hbytes : ((1024 * n : Nat) : Int) * 1024 ^ v.power = n * 1024 ^ u.power := by
    rw [hpower, pow_succ, Int.natCast_mul]
    ring
  rw [parse_eq_ok_iff_gives hs', parse_eq_ok_iff_gives ht']
  constructor
  · rintro ⟨w, i, h, hpos, hm⟩
    obtain ⟨rfl, rfl⟩ := hs.unique h
    exact ⟨v, _, ht, by omega, hm.trans hbytes.symm⟩
  · rintro ⟨w, i, h, hpos, hm⟩
    obtain ⟨rfl, rfl⟩ := ht.unique h
    exact ⟨u, n, hs, by omega, hm.trans hbytes⟩

/-- **Reading sizes.** Below the limit a text is read exactly if it gives a positive number of a unit, as the
number times a power of 1024, and everything else is a failure of memory. So the sizes of one unit have the
order of their numbers, and a number of a unit is 1024 times as many of the next smaller one. -/
theorem parse_exact :
    (∀ s, ShortNumber s →
      (∀ m, parse s = .ok m ↔ ∃ u n, Gives s u n ∧ 1 ≤ n ∧ m.bytes = n * 1024 ^ u.power) ∧
      ((¬ ∃ u n, Gives s u n ∧ 1 ≤ n) → ∃ f, parse s = .error f ∧ f.family = .memory)) ∧
    (∀ s t u n k, Gives s u n → Gives t u k → ∀ a b, parse s = .ok a → parse t = .ok b →
      (a.lt b = true ↔ n < k)) ∧
    (∀ s t u v n, u.power = v.power + 1 → Gives s u n → Gives t v (1024 * n) →
      ShortNumber s → ShortNumber t → ∀ m, parse s = .ok m ↔ parse t = .ok m) := by
  refine ⟨fun s hs => ⟨fun m => parse_eq_ok_iff_gives hs, fun hnot => ?_⟩,
    fun s t u n k hs ht a b => lt_iff_of_gives hs ht,
    fun s t u v n hpower hs ht hs' ht' m => parse_of_next_unit hpower hs ht hs' ht'⟩
  cases h : parse s with
  | ok m =>
    obtain ⟨u, n, hgives, hpos, -⟩ := (parse_eq_ok_iff_gives hs).1 h
    exact absurd ⟨u, n, hgives, hpos⟩ hnot
  | error f => exact ⟨f, rfl, family_of_parse_eq_error hs h⟩

/-- Digits of another script and letters of either case, the same size in megabytes, a larger size of that
unit, and a text without a unit of memory. -/
theorem parse_exact_of_script :
    parse " \u0662\u0660 Gb\n" = .ok ⟨20 * 1024 ^ 3⟩ ∧ parse "20480MebiBytes" = .ok ⟨20 * 1024 ^ 3⟩ ∧
    (∃ a b, parse " \u0662\u0660 Gb\n" = .ok a ∧ parse "021g" = .ok b ∧ a.lt b = true) ∧
    ∃ f, parse "20 pb" = .error f ∧ f.family = .memory := by
  have hgiga : Gives " \u0662\u0660 Gb\n" .giga 20 :=
    ⟨"\u0662\u0660".toList, ⟨"Gb".toList, Text.Quantity.spells_of_read? (by decide +kernel), by decide⟩,
      by decide +kernel⟩
  have hmega : Gives "20480MebiBytes" .mega (1024 * 20) :=
    ⟨"20480".toList, ⟨"MebiBytes".toList, Text.Quantity.spells_of_read? (by decide +kernel), by decide⟩,
      by decide +kernel⟩
  have hmore : Gives "021g" .giga 21 :=
    ⟨"021".toList, ⟨"g".toList, Text.Quantity.spells_of_read? (by decide +kernel), by decide⟩,
      by decide +kernel⟩
  have hshort {s : String} (h : s.toList.length ≤ 20) : ShortNumber s :=
    .of_length (Nat.le_trans h (by decide))
  have hs : ShortNumber " \u0662\u0660 Gb\n" := hshort (by decide +kernel)
  have ht : ShortNumber "20480MebiBytes" := hshort (by decide +kernel)
  have ⟨hexact, horder, hunits⟩ := parse_exact
  have hread := ((hexact _ hs).1 ⟨20 * 1024 ^ 3⟩).2 ⟨.giga, 20, hgiga, by decide, rfl⟩
  have hlarger := ((hexact "021g" (hshort (by decide +kernel))).1 ⟨21 * 1024 ^ 3⟩).2
    ⟨.giga, 21, hmore, by decide, rfl⟩
  refine ⟨hread, (hunits _ _ _ _ _ rfl hgiga hmega hs ht _).1 hread,
    ⟨_, _, hread, hlarger, (horder _ _ _ _ _ hgiga hmore _ _ hread hlarger).2 (by decide)⟩, ?_⟩
  refine (hexact "20 pb" (hshort (by decide +kernel))).2 ?_
  rintro ⟨u, n, ⟨ds, ⟨letters, hspells, hname⟩, -⟩, -⟩
  have hpb : Text.Quantity.Spells ⟨"20".toList, "pb".toList⟩ "20 pb".toList :=
    Text.Quantity.spells_of_read? (by decide +kernel)
  cases hspells.unique hpb
  cases u <;> exact absurd hname (by decide)

end MemorySize

end ClusterPlan
