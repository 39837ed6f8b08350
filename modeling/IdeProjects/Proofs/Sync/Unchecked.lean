import IdeProjects.Proofs.Config.Grammar
import IdeProjects.Proofs.Library.Scan
import IdeProjects.Sync.Unchecked

/-!
# `IdeProjects.Proofs.Sync.Unchecked`: what the schemas spare a run

A run on settings that no schema has seen looks at each of them where it is
needed, and fails there if it is no text. A record that the schema of its
section accepts has no such part. So a scan with it is the scan of the layout
that it means (`scanUnchecked_eq`), and a run is the run with the layout and
the settings (`exists_syncUnchecked_eq`).
-/

set_option autoImplicit false

namespace IdeProjects

open Session

/-- The parts of a layout that its schema accepts are texts. -/
theorem LayoutRecord.exists_texts {r : LayoutRecord} (h : Schema.layout r.toJson = []) :
    ∃ managedDir rootPattern moduleDir modulePattern : String,
      r = ⟨.text managedDir, .text rootPattern, .text moduleDir, .text modulePattern⟩ := by
  have hlayout := Schema.layout_eq_nil_iff.mp h
  obtain ⟨managed, root, module, pattern⟩ := r
  obtain ⟨managedDir, rfl, _⟩ := hlayout.managedDir managed rfl
  obtain ⟨rootPattern, rfl, _⟩ := hlayout.rootPattern root rfl
  obtain ⟨moduleDir, rfl, _⟩ := hlayout.moduleDir module rfl
  obtain ⟨modulePattern, rfl, _⟩ := hlayout.modulePattern pattern rfl
  exact ⟨managedDir, rootPattern, moduleDir, modulePattern, rfl⟩

/-- A scan with a layout that its schema accepts is the scan of what the
layout means. -/
theorem scanUnchecked_eq {r : LayoutRecord} (h : Schema.layout r.toJson = []) (base : Location)
    (installRoot : Path) :
    (scanUnchecked base installRoot r : Session (LibraryScan base)) =
      scanLibraries base installRoot r.layout := by
  obtain ⟨managedDir, rootPattern, moduleDir, modulePattern, rfl⟩ := r.exists_texts h
  rfl

/-- Settings that their schema accepts mean something for a run. -/
theorem OptionRecord.exists_options {o : OptionRecord} (h : Schema.project o.toJson = []) :
    ∃ options, o.options = .ok options := by
  have hproject := Schema.project_eq_nil_iff.mp h
  obtain ⟨framework, version, path, blocks, guids, mode⟩ := o
  obtain ⟨targetFramework, rfl, _⟩ := hproject.targetFramework framework rfl
  obtain ⟨langVersion, rfl, _⟩ := hproject.langVersion version rfl
  obtain ⟨outputPath, rfl⟩ := hproject.outputPath path rfl
  obtain ⟨texts, htexts, _⟩ := hproject.projectTypeGuids (.array guids) rfl
  cases htexts
  rw [options, Json.asItems_texts]
  exact ⟨_, rfl⟩

/-- A run with a layout and settings that their schemas accept is the run with
what they mean. -/
theorem exists_syncUnchecked_eq {r : LayoutRecord} {o : OptionRecord}
    (hlayout : Schema.layout r.toJson = []) (hproject : Schema.project o.toJson = []) :
    ∃ options, o.options = .ok options ∧
      ∀ (base : Location) (request : SyncRequest) (entries : List Snapshot.Entry),
        (syncUnchecked base request r o entries : Session SyncRun) =
          sync base { request with layout := r.layout, options } entries := by
  obtain ⟨options, hoptions⟩ := o.exists_options hproject
  refine ⟨options, hoptions, fun base request entries => ?_⟩
  funext t
  rw [syncUnchecked, hoptions, scanUnchecked_eq hlayout, bind_apply,
    (readOnly_scanLibraries _ _ _).apply]
  cases hscan : outcome (scanLibraries base request.installRoot r.layout) t with
  | ok scan => rfl
  | error fault =>
      dsimp only
      rw [sync, bind_apply, (readOnly_scanLibraries _ _ _).apply, hscan]

end IdeProjects
