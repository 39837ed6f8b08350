import IdeProjects.Library.Scan
import IdeProjects.Proofs.Storage.Session

/-!
# `IdeProjects.Proofs.Library.Scan`: a scan only looks

A scan asks what stands at paths and what directories hold, and changes
nothing (`readOnly_scanLibraries`). So the files that a run writes are
written to the very tree that was scanned.
-/

set_option autoImplicit false

namespace IdeProjects

open Session

/-- Looking for a directory changes nothing. -/
theorem readOnly_isDirectory (p : Path) : ReadOnly (Storage.isDirectory p : Session Bool) :=
  (readOnly_look _).bind fun _ => readOnly_pure _

/-- Looking for a file changes nothing. -/
theorem readOnly_isFile (p : Path) : ReadOnly (Storage.isFile p : Session Bool) :=
  (readOnly_look _).bind fun _ => readOnly_pure _

/-- Asking for one kind tells whether that kind stands at the path. -/
theorem outcome_isKind_eq_ok_iff {p : Path} {t : FileTree} {expected : FileKind} {b : Bool} :
    outcome (do return (← Storage.kind? p) == some expected : Session Bool) t = .ok b ↔
      ∃ kind, t.kind? p = .ok kind ∧ (kind == some expected) = b := by
  have hread : ReadOnly (Storage.kind? p : Session (Option FileKind)) := readOnly_look _
  have hlook : outcome (Storage.kind? p : Session (Option FileKind)) t = t.kind? p :=
    outcome_look _ t
  rw [hread.outcome_bind_eq_ok, hlook]
  simp [outcome]

/-- Picking the files from names is a look at each of them. -/
theorem readOnly_regularFiles (directory : Path) (names : List String) :
    ReadOnly (regularFiles directory names : Session (List String)) := by
  induction names with
  | nil => exact readOnly_pure _
  | cons name rest ih =>
      exact (readOnly_isFile _).bind fun _ => ih.bind fun _ => readOnly_pure _

/-- Listing the files of a directory that match a pattern changes nothing. -/
theorem readOnly_matchingFiles (directory : Path) (pattern : String) :
    ReadOnly (matchingFiles directory pattern : Session (List String)) :=
  (readOnly_look _).bind fun names =>
    (readOnly_regularFiles directory names).bind fun _ => readOnly_pure _

/-- A scan leaves every tree as it is. -/
theorem readOnly_scanLibraries (base : Location) (installRoot : Path) (layout : ScanLayout) :
    ReadOnly (scanLibraries base installRoot layout : Session (LibraryScan base)) := by
  refine (readOnly_isDirectory _).bind fun isThere => ?_
  split
  · refine (readOnly_matchingFiles _ _).bind fun plain => ?_
    refine (readOnly_isDirectory _).bind fun hasModules => ?_
    dsimp only
    split
    · exact (readOnly_matchingFiles _ _).bind fun _ => readOnly_pure _
    · exact (readOnly_pure _).bind fun _ => readOnly_pure _
  · exact readOnly_pure _

/-- Without the directory of managed libraries there is nothing to
find. -/
theorem scanLibraries_of_missing {base : Location} {installRoot : Path} {layout : ScanLayout}
    {t : FileTree} (h : t.kind? (layout.managed installRoot) = .ok none) :
    outcome (scanLibraries base installRoot layout) t =
      .ok (.missing (layout.managed installRoot)) := by
  unfold outcome
  rw [scanLibraries, bind_apply, isDirectory_apply, h]
  rfl

end IdeProjects
