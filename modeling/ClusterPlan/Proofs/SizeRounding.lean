import ClusterPlan.Settings
import ClusterPlan.Proofs.SizeGrammar
import ClusterPlan.Proofs.SizeText

/-!
# How far the text of a size is off

With the default settings a text is off by one part in ten at most. For a size below `2 ^ 50` bytes the quotients
by the units are exact and the error is compared exactly, so that the first unit that is within the bound is the one
that shows the size (`MemorySize.showIn_of_short`). A larger size is shown in the largest unit, in which rounding is
far below the bound (`MemorySize.showIn_of_large`). `MemorySize.text_within_tenth` puts the two together.
-/

namespace ClusterPlan

namespace MemoryUnit

/-- A unit is a power of two. -/
theorem exists_factor_eq_two_pow (u : MemoryUnit) : ∃ k ≤ 1074, u.factor = 2 ^ k :=
  ⟨10 * u.power, by cases u <;> decide, by cases u <;> rfl⟩

/-- All units are tried. -/
theorem mem_descending (u : MemoryUnit) : u ∈ descending := by
  cases u <;> decide

/-- Larger units are tried first. -/
theorem descending_pairwise : descending.Pairwise fun u v => v.factor < u.factor := by
  decide

end MemoryUnit

/-- Without settings the tolerance is the standard one. -/
theorem Settings.tolerance_standard : standard.tolerance = .standard := rfl

namespace MemorySize

open Binary64

variable {n : Nat} {u : MemoryUnit}

/-- The size is at least one of the unit, and the nearest number of units is off by one part in ten at most. -/
def Admissible (n : Nat) (u : MemoryUnit) : Prop :=
  u.factor ≤ n ∧ 10 * distance (divNearest n u.factor) u.factor n ≤ n

instance : Decidable (Admissible n u) :=
  inferInstanceAs (Decidable (_ ∧ _))

/-- In bytes nothing is rounded. -/
theorem admissible_byte (hn : 0 < n) : Admissible n .byte := by
  have hself : divNearest (n * 1) 1 = n := divNearest_mul_self n Nat.one_pos
  rw [Nat.mul_one] at hself
  have hzero : distance n 1 n = 0 := by simp [distance]
  refine ⟨hn, ?_⟩
  rw [MemoryUnit.factor, hself, hzero]
  exact Nat.zero_le n

/-- The nearest number of an admissible unit is positive. -/
theorem Admissible.one_le (h : Admissible n u) : 1 ≤ divNearest n u.factor := by
  have hfactor := u.factor_pos
  have hnear := (near_divNearest (a := n) hfactor).2
  have hle := h.1
  refine Nat.pos_of_ne_zero fun hzero => ?_
  rw [hzero] at hnear
  omega

/-- A short number that is shown in an admissible unit can be written. -/
theorem Admissible.isWritable (h : Admissible n u) (hshort : n < 2 ^ 50) :
    Text.isWritable (divNearest n u.factor) = true := by
  have hmul : divNearest n u.factor ≤ divNearest n u.factor * u.factor :=
    Nat.le_mul_of_pos_right _ u.factor_pos
  have herror := h.2
  simp only [distance, ← Int.natCast_mul] at herror
  have hlt : divNearest n u.factor < 10 ^ 16 := by omega
  exact Text.isWritable_of_lt_pow hlt (by decide)

/-- The quotient of a short size by a unit is exact. -/
theorem ratio_of_short (hn : 0 < n) (hshort : n < 2 ^ 50) {m : Nat} {e : Int}
    (h : ofRatio false n u.factor = .finite false m e) : (ratio m e).1 * u.factor = n * (ratio m e).2 := by
  obtain ⟨k, hk, hfactor⟩ := u.exists_factor_eq_two_pow
  rw [hfactor] at h ⊢
  exact ratio_of_two_pow hn (Nat.lt_trans hshort (by decide)) hk h

/-- The error of a short size that is at least one of a unit is found to be within the bound, or passed over for
bytes, exactly if the unit is admissible. -/
theorem allowed_iff_of_short (hn : 0 < n) (hshort : n < 2 ^ 50) (hle : u.factor ≤ n) :
    ((ofRatio false (distance (divNearest n u.factor) u.factor n) n).le (ofRatio false 1 10) ||
      decide (u = .byte)) = true ↔ Admissible n u := by
  have herror : distance (divNearest n u.factor) u.factor n < n := by
    have := (distance_divNearest n u.factor_pos).1
    omega
  rw [Bool.or_eq_true, decide_eq_true_iff, le_tenth_iff herror hshort]
  constructor
  · rintro (hnear | rfl)
    · exact ⟨hle, hnear⟩
    · exact admissible_byte hn
  · intro h
    exact .inl h.2

/-- A short size is shown in the first unit that is admissible. -/
theorem showIn_of_short (hn : 0 < n) (hshort : n < 2 ^ 50) (units : List MemoryUnit) :
    (⟨n⟩ : MemorySize).showIn .standard (u :: units) =
      if Admissible n u then .ok (toString (divNearest n u.factor) ++ u.symbol)
      else (⟨n⟩ : MemorySize).showIn .standard units := by
  have hu : n < overflow * u.factor := lt_overflow_mul (Nat.lt_trans hshort (by decide +kernel)) u
  obtain ⟨m, e, hfinite⟩ := exists_ofRatio false hn u.factor_pos hu
  have hratio := ratio_of_short hn hshort hfinite
  have hround : Rounded u n (nearest m e) := near_nearest hn u.factor_pos hfinite
  rw [nearest_of_ratio u.factor_pos hratio] at hround
  rw [showIn_cons hu units hfinite]
  simp only [nearest_of_ratio u.factor_pos hratio, compareInt?_one_of_ratio u.factor_pos hratio,
    quotient_error hn hround, bind, Except.bind, Tolerance.standard, Tolerance.allows, beq_iff_eq]
  by_cases hsmall : n < u.factor
  · have hnot : ¬ Admissible n u := fun h => Nat.not_lt_of_le h.1 hsmall
    rw [if_pos hsmall, if_neg hnot]
  · rw [if_neg hsmall, writeInt_eq_ok (isWritable_rounded hu hround)]
    exact if_congr (allowed_iff_of_short hn hshort (Nat.le_of_not_lt hsmall)) rfl rfl

/-- So it is shown in the unit that is found among the units by its being admissible. -/
theorem showIn_of_find? (hn : 0 < n) (hshort : n < 2 ^ 50) {units : List MemoryUnit}
    (h : units.find? (fun u => decide (Admissible n u)) = some u) :
    (⟨n⟩ : MemorySize).showIn .standard units = .ok (toString (divNearest n u.factor) ++ u.symbol) := by
  induction units with
  | nil => cases h
  | cons v units ih =>
    rw [showIn_of_short hn hshort]
    by_cases hv : Admissible n v
    · simp only [List.find?_cons, decide_eq_true hv] at h
      obtain rfl := Option.some.inj h
      exact if_pos hv
    · simp only [List.find?_cons, decide_eq_false hv] at h
      rw [if_neg hv, ih h]

/-- The text shows a number of bytes as `q` of the unit: off by one part in ten at most, and read as just that
number of the unit. In no larger unit is the nearest whole number that good. -/
structure Shows (s : String) (n q : Nat) (u : MemoryUnit) : Prop where
  text : s = toString q ++ u.symbol
  one_le : 1 ≤ q
  near : 10 * distance q u.factor n ≤ n
  reads : parse s = .ok ⟨q * u.factor⟩
  largest : ∀ v : MemoryUnit, u.factor < v.factor → v.factor ≤ n →
    ∃ k, IsNearest n v.factor k ∧ n < 10 * distance k v.factor n

/-- A short positive number is shown in an admissible unit. -/
theorem exists_shows_of_short (hn : 0 < n) (hshort : n < 2 ^ 50) :
    ∃ q u, Shows (toString q ++ u.symbol) n q u ∧
      (⟨n⟩ : MemorySize).text .standard = .ok (toString q ++ u.symbol) := by
  cases hfind : MemoryUnit.descending.find? fun u => decide (Admissible n u) with
  | none =>
    have hbyte := List.find?_eq_none.1 hfind .byte MemoryUnit.byte.mem_descending
    exact absurd (decide_eq_true (admissible_byte hn)) hbyte
  | some u =>
    have hu : Admissible n u := by simpa using List.find?_some hfind
    have hreads := parse_symbol hu.one_le (hu.isWritable hshort) u
    refine ⟨_, u, ⟨rfl, hu.one_le, hu.2, hreads, fun v hlt hle => ?_⟩, showIn_of_find? hn hshort hfind⟩
    refine ⟨divNearest n v.factor, (isNearest_iff v.factor_pos).2 rfl, Nat.lt_of_not_le fun hnear => ?_⟩
    have hlargest := Text.le_of_find? MemoryUnit.descending_pairwise hfind v.mem_descending
      (decide_eq_true ⟨hle, hnear⟩)
    omega

/-- A large number is shown in the largest unit, unless it overflows. -/
theorem exists_shows_of_large (hlarge : 2 ^ 50 ≤ n) (ht : n < overflow * MemoryUnit.tera.factor) :
    ∃ q u, Shows (toString q ++ u.symbol) n q u ∧
      (⟨n⟩ : MemorySize).text .standard = .ok (toString q ++ u.symbol) := by
  obtain ⟨q, hq, hnear, hw, hshow⟩ := showIn_of_large hlarge ht [.giga, .mega, .kilo, .byte]
  refine ⟨q, .tera, ⟨rfl, hq, hnear, parse_symbol hq hw .tera, fun v hlt _ => ?_⟩, hshow⟩
  exact absurd (factor_le v) (Nat.not_le_of_lt hlt)

/-- **Texts of sizes.** With the default settings the text of a positive size, if there is one, is off by one part
in ten at most, and no larger unit would do. -/
theorem text_within_tenth {s : String} (hn : 0 < n)
    (h : (⟨n⟩ : MemorySize).text Settings.standard.tolerance = .ok s) : ∃ q u, Shows s n q u := by
  rw [Settings.tolerance_standard] at h
  have hshown : ∃ q u, Shows (toString q ++ u.symbol) n q u ∧
      (⟨n⟩ : MemorySize).text .standard = .ok (toString q ++ u.symbol) := by
    rcases Nat.lt_or_ge n (2 ^ 50) with hshort | hlarge
    · exact exists_shows_of_short hn hshort
    · exact exists_shows_of_large hlarge (lt_of_text ⟨s, h⟩)
  obtain ⟨q, u, hshows, htext⟩ := hshown
  cases htext.symm.trans h
  exact ⟨q, u, hshows⟩

/-- One and a half gigabytes are shown in megabytes, because two gigabytes would be too far off, and a number of
terabytes that has no exact quotient is shown rounded. -/
theorem text_within_tenth_of_rounded :
    ((⟨1536 * 1024 ^ 2⟩ : MemorySize).text Settings.standard.tolerance = .ok "1536mb" ∧
      ∃ q u, Shows "1536mb" (1536 * 1024 ^ 2) q u) ∧
    ((⟨(2 ^ 53 + 1) * 1024 ^ 4⟩ : MemorySize).text Settings.standard.tolerance = .ok "9007199254740992tb" ∧
      ∃ q u, Shows "9007199254740992tb" ((2 ^ 53 + 1) * 1024 ^ 4) q u) := by
  have hmega : (⟨1536 * 1024 ^ 2⟩ : MemorySize).text Settings.standard.tolerance = .ok "1536mb" := by
    decide +kernel
  have htera : (⟨(2 ^ 53 + 1) * 1024 ^ 4⟩ : MemorySize).text Settings.standard.tolerance =
      .ok "9007199254740992tb" := by
    decide +kernel
  exact ⟨⟨hmega, text_within_tenth (by decide) hmega⟩, htera, text_within_tenth (by decide) htera⟩

end MemorySize

end ClusterPlan
