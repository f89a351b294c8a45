import ClusterPlan.Duration
import ClusterPlan.Proofs.Digits
import ClusterPlan.Proofs.Quantity

/-!
# The text of a duration

A duration is formatted as a whole number of the largest unit that divides it (`Duration.exists_format`), and
the text reads back (`Duration.parse_format`). Reading takes more texts than that: a text is read as a duration
exactly if it measures a run of digits in a unit of time and the product is a duration
(`Duration.parse_eq_ok_iff`). `Duration.format_canonical` puts the two together: of all texts that are read as
one duration, formatting gives the same.
-/

namespace ClusterPlan

namespace TimeUnit

/-- The names of a unit in small letters. No name means milliseconds. -/
def names : TimeUnit → List String
  | day => ["d", "day", "days"]
  | hour => ["h", "hour", "hours"]
  | minute => ["min", "m", "minute", "minutes"]
  | second => ["s", "sec", "secs", "second", "seconds"]
  | millisecond => ["", "ms", "milli", "millis", "millisecond", "milliseconds"]
  | microsecond => ["us", "micro", "micros", "microsecond", "microseconds"]

/-- A unit is found by its names and by no others. -/
theorem ofName?_eq_some_iff {name : String} {u : TimeUnit} : ofName? name = some u ↔ name ∈ u.names := by
  constructor
  · intro h
    simp only [ofName?] at h
    split_ifs at h with hday hhour hminute hsecond hmilli hmicro <;> cases h
    · exact hday
    · exact hhour
    · exact hminute
    · exact hsecond
    · exact hmilli
    · exact hmicro
  · have hfound : ∀ n ∈ u.names, ofName? n = some u := by cases u <;> decide
    exact hfound name

theorem isLetter_of_mem_symbol (u : TimeUnit) : ∀ c ∈ u.symbol.toList, Text.isLetter c = true :=
  List.all_eq_true.1 (by cases u <;> decide)

theorem symbol_mem_names (u : TimeUnit) : String.ofList (u.symbol.toList.map Char.toLower) ∈ u.names := by
  cases u <;> decide

theorem micros_pos (u : TimeUnit) : 0 < u.micros := by
  cases u <;> decide

/-- Every unit but the last is tried, and a larger one before a smaller one. -/
theorem mem_descending (u : TimeUnit) : u ∈ descending ∨ u = microsecond := by
  cases u <;> decide

theorem descending_pairwise : descending.Pairwise fun u v => v.micros < u.micros := by
  decide

end TimeUnit

namespace Duration

variable {s : String} {d : Duration} {u : TimeUnit} {n : Nat}

/-! ## The range of durations -/

/-- The least number of microseconds that is too long for a duration. -/
def limit : Nat := 1000000000 * TimeUnit.day.micros

/-- A number of microseconds is a duration exactly if it is below the limit. -/
theorem ofMicros_eq_ok_iff : ofMicros n = .ok d ↔ n < limit ∧ d = ⟨n⟩ := by
  have hdays : (⟨n⟩ : Duration).days = ((n / TimeUnit.day.micros : Nat) : Int) := (Int.ofNat_fdiv ..).symm
  have hrange : (-maxDays ≤ (⟨n⟩ : Duration).days && (⟨n⟩ : Duration).days ≤ maxDays) = true ↔ n < limit := by
    rw [hdays, Bool.and_eq_true, decide_eq_true_eq, decide_eq_true_eq]
    simp only [maxDays, limit, TimeUnit.micros]
    omega
  simp only [ofMicros]
  split
  · next h => rw [Except.ok.injEq, eq_comm, and_iff_right (hrange.1 h)]
  · next h =>
    refine ⟨fun hok => ?_, fun hok => absurd (hrange.2 hok.1) h⟩
    split at hok <;> cases hok

/-- The durations that there are: not negative and not too long. -/
def Valid (d : Duration) : Prop :=
  0 ≤ d.micros ∧ ofMicros d.micros = .ok d

theorem valid_iff : d.Valid ↔ ∃ n : Nat, n < limit ∧ d = ⟨n⟩ := by
  obtain ⟨micros⟩ := d
  constructor
  · rintro ⟨hpos, hok⟩
    obtain ⟨n, rfl⟩ := Int.eq_ofNat_of_zero_le hpos
    exact ⟨n, (ofMicros_eq_ok_iff.1 hok).1, rfl⟩
  · rintro ⟨n, hn, h⟩
    cases h
    exact ⟨Int.natCast_nonneg n, ofMicros_eq_ok_iff.2 ⟨hn, rfl⟩⟩

/-- A duration is so short that its number can be written. -/
theorem isWritable_of_lt_limit (h : n < limit) : Text.isWritable n = true := by
  have hn : n < 10 ^ 20 := Nat.lt_trans h (by decide)
  exact Text.isWritable_of_lt_pow hn (by decide)

/-! ## Reading -/

/-- A text that measures digits in a unit is read by them. -/
theorem parse_of_measures {ds : List Char} (h : Text.Measures u.names ds s) :
    parse s = readDigits ds >>= fun n => ofMicros (n * u.micros) := by
  obtain ⟨letters, hspells, hname⟩ := h
  have hunit : TimeUnit.ofName? (⟨ds, letters⟩ : Text.Quantity).unitName = some u :=
    TimeUnit.ofName?_eq_some_iff.2 hname
  rw [parse, Text.Quantity.read?_of_spells hspells]
  simp only [hunit]

/-- A text that is read measures digits in a unit. -/
theorem measures_of_parse (h : parse s = .ok d) : ∃ u ds, Text.Measures (TimeUnit.names u) ds s := by
  unfold parse at h
  split at h
  · cases h
  · next q hq =>
    split at h
    · cases h
    · next u hu =>
      exact ⟨u, q.digits, q.unit, Text.Quantity.spells_of_read? hq, TimeUnit.ofName?_eq_some_iff.1 hu⟩

theorem parse_eq_ok_iff : parse s = .ok d ↔ ∃ u ds, Text.Measures (TimeUnit.names u) ds s ∧
    ds.length ≤ Text.digitLimit ∧ Text.ofDigits ds * u.micros < limit ∧
    d.micros = Text.ofDigits ds * u.micros := by
  constructor
  · intro h
    obtain ⟨u, ds, hm⟩ := measures_of_parse h
    rw [parse_of_measures hm] at h
    obtain ⟨n, hn, h⟩ := bind_eq_ok.1 h
    obtain ⟨hl, rfl⟩ := readDigits_eq_ok_iff.1 hn
    rw [← Int.natCast_mul] at h
    obtain ⟨hlt, rfl⟩ := ofMicros_eq_ok_iff.1 h
    exact ⟨u, ds, hm, hl, hlt, Int.natCast_mul ..⟩
  · rintro ⟨u, ds, hm, hl, hlt, hmicros⟩
    obtain ⟨micros⟩ := d
    obtain rfl := hmicros
    rw [parse_of_measures hm]
    refine bind_eq_ok.2 ⟨_, readDigits_eq_ok_iff.2 ⟨hl, rfl⟩, ?_⟩
    rw [← Int.natCast_mul]
    exact ofMicros_eq_ok_iff.2 ⟨hlt, rfl⟩

/-- A duration that is read is valid. -/
theorem valid_of_parse (h : parse s = .ok d) : d.Valid := by
  obtain ⟨u, ds, -, -, hlt, hmicros⟩ := parse_eq_ok_iff.1 h
  refine valid_iff.2 ⟨_, hlt, ?_⟩
  obtain ⟨micros⟩ := d
  rw [Int.natCast_mul]
  exact congrArg Duration.mk hmicros

/-! ## Formatting -/

/-- The unit of a duration divides it. -/
theorem unitFor_dvd (n : Nat) : (unitFor n).micros ∣ n := by
  unfold unitFor
  split
  · exact Nat.one_dvd n
  · cases hu : TimeUnit.descending.find? fun u => (n : Int) % u.micros = 0 with
    | none => exact Nat.one_dvd n
    | some u =>
      have := List.find?_some hu
      exact Nat.dvd_of_mod_eq_zero (by exact_mod_cast of_decide_eq_true this)

/-- No larger unit divides it. -/
theorem le_unitFor (hn : n ≠ 0) (h : u.micros ∣ n) : u.micros ≤ (unitFor n).micros := by
  have hmod : decide ((n : Int) % u.micros = 0) = true :=
    decide_eq_true (by exact_mod_cast Nat.mod_eq_zero_of_dvd h)
  have hzero : (n : Int) ≠ 0 := by exact_mod_cast hn
  rw [unitFor, if_neg hzero]
  rcases u.mem_descending with hu | rfl
  · cases hfind : TimeUnit.descending.find? fun u => (n : Int) % u.micros = 0 with
    | none => exact absurd hmod (List.find?_eq_none.1 hfind u hu)
    | some v => exact Text.le_of_find? TimeUnit.descending_pairwise hfind hu hmod
  · exact TimeUnit.micros_pos _

/-- The text of a duration that is not negative. -/
theorem format_natCast (n : Nat) :
    format ⟨n⟩ = toString (n / (unitFor n).micros) ++ String.ofList ([' '] ++ (unitFor n).symbol.toList) := by
  have hquot : toString ((n : Int) / (unitFor n).micros) = toString (n / (unitFor n).micros) := rfl
  have hgap : String.ofList ([' '] ++ (unitFor n).symbol.toList) = " " ++ (unitFor n).symbol :=
    String.toList_inj.1 (by simp)
  rw [hgap, ← String.append_assoc, ← hquot]
  rfl

/-- A duration is formatted as a whole number of the largest unit that divides it, and in microseconds if it
is zero. -/
theorem exists_format (h : 0 ≤ d.micros) : ∃ (q : Nat) (u : TimeUnit),
    d.format = toString q ++ " " ++ u.symbol ∧ d.micros = q * u.micros ∧
    (d.micros = 0 → u = .microsecond) ∧
    (d.micros ≠ 0 → ∀ v : TimeUnit, (v.micros : Int) ∣ d.micros → v.micros ≤ u.micros) := by
  obtain ⟨micros⟩ := d
  obtain ⟨n, rfl⟩ := Int.eq_ofNat_of_zero_le h
  refine ⟨n / (unitFor n).micros, unitFor n, rfl, ?_, fun hzero => if_pos hzero, fun hne v hv => ?_⟩
  · show (n : Int) = _
    rw [← Int.natCast_mul, Nat.div_mul_cancel (unitFor_dvd n)]
  · have hn : (n : Int) ≠ 0 := hne
    have hdvd : (v.micros : Int) ∣ (n : Int) := hv
    exact le_unitFor (by exact_mod_cast hn) (by exact_mod_cast hdvd)

/-- The text of a valid duration reads back. -/
theorem parse_format (h : d.Valid) : parse d.format = .ok d := by
  obtain ⟨n, hn, rfl⟩ := valid_iff.1 h
  have hw : Text.isWritable ((n / (unitFor n).micros : Nat) : Int) = true :=
    isWritable_of_lt_limit (Nat.lt_of_le_of_lt (Nat.div_le_self ..) hn)
  rw [format_natCast, parse_eq_ok_iff]
  refine ⟨unitFor n, _, Text.measures_written _ (.inr rfl) (unitFor n).isLetter_of_mem_symbol
    (unitFor n).symbol_mem_names, Text.length_toDigits_le hw, ?_⟩
  have hdvd : n / (unitFor n).micros * (unitFor n).micros = n := Nat.div_mul_cancel (unitFor_dvd n)
  rw [Text.ofDigits_toDigits, ← Int.natCast_mul, hdvd]
  exact ⟨hn, rfl⟩

/-- Valid durations with the same text are the same. -/
theorem format_inj {e : Duration} (hd : d.Valid) (he : e.Valid) : d.format = e.format ↔ d = e := by
  refine ⟨fun h => ?_, fun h => h ▸ rfl⟩
  have := parse_format hd
  rw [h, parse_format he] at this
  exact (Except.ok.inj this).symm

/-- **Durations and their texts.** A duration is formatted in the largest unit that divides it, and zero in
microseconds, and the text reads back. A text is read exactly if it measures a number within the limits in a
unit of time, as their product. Two texts that are read are the same duration exactly if formatting gives the
same text for both. -/
theorem format_canonical :
    (∀ d : Duration, 0 ≤ d.micros →
      (∃ (q : Nat) (u : TimeUnit), d.format = toString q ++ " " ++ u.symbol ∧ d.micros = q * u.micros ∧
        (d.micros = 0 → u = .microsecond) ∧
        (d.micros ≠ 0 → ∀ v : TimeUnit, (v.micros : Int) ∣ d.micros → v.micros ≤ u.micros)) ∧
      (d.micros < limit → parse d.format = .ok d)) ∧
    (∀ s d, parse s = .ok d ↔ ∃ u ds, Text.Measures (TimeUnit.names u) ds s ∧ ds.length ≤ Text.digitLimit ∧
      Text.ofDigits ds * u.micros < limit ∧ d.micros = Text.ofDigits ds * u.micros) ∧
    (∀ s t a b, parse s = .ok a → parse t = .ok b → (a = b ↔ a.format = b.format)) := by
  refine ⟨fun d hpos => ⟨exists_format hpos, fun hlt => parse_format ?_⟩, fun s d => parse_eq_ok_iff,
    fun s t a b ha hb => (format_inj (valid_of_parse ha) (valid_of_parse hb)).symm⟩
  obtain ⟨micros⟩ := d
  obtain ⟨n, rfl⟩ := Int.eq_ofNat_of_zero_le hpos
  exact valid_iff.2 ⟨n, Int.ofNat_lt.1 hlt, rfl⟩

/-- Three spellings of a minute and a half, of which the last one is its text, and the longest duration. -/
theorem format_canonical_of_spellings :
    parse "\u0669\u0660 Secs" = .ok ⟨90000000⟩ ∧ parse " 090000" = .ok ⟨90000000⟩ ∧
    (⟨90000000⟩ : Duration).format = "90 s" ∧ parse "90 s" = .ok ⟨90000000⟩ ∧
    parse (format ⟨86399999999999999999⟩) = .ok ⟨86399999999999999999⟩ := by
  have ⟨hformat, hread, hsame⟩ := format_canonical
  have hsecond : Text.Measures TimeUnit.second.names "\u0669\u0660".toList "\u0669\u0660 Secs" :=
    ⟨"Secs".toList, Text.Quantity.spells_of_read? (by decide +kernel), by decide⟩
  have hmilli : Text.Measures TimeUnit.millisecond.names "090000".toList " 090000" :=
    ⟨[], Text.Quantity.spells_of_read? (by decide +kernel), by decide⟩
  have hs := (hread _ ⟨90000000⟩).2 ⟨_, _, hsecond, by decide, by decide +kernel, by decide +kernel⟩
  have ht := (hread _ ⟨90000000⟩).2 ⟨_, _, hmilli, by decide, by decide +kernel, by decide +kernel⟩
  have htext : (⟨90000000⟩ : Duration).format = "90 s" := by decide +kernel
  have hback := (hformat ⟨90000000⟩ (by decide)).2 (by decide +kernel)
  rw [htext] at hback
  exact ⟨hs, ht, htext, hback, (hformat ⟨86399999999999999999⟩ (by decide)).2 (by decide +kernel)⟩

end Duration

end ClusterPlan
