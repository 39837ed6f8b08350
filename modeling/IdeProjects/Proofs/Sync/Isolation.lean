import IdeProjects.Proofs.Sync.Run
import Mathlib.Data.List.Forall2

/-!
# `IdeProjects.Proofs.Sync.Isolation`: what a failed write does to the others

A write that the storage refuses is recorded, and the run goes on. Such a
failure is isolated: without the targets that fail, all files have the
same bytes in the end (`bringAllUpToDate_without_failures`). But a name
with a null character is no name for the storage at all, and that is not
recorded: it ends the run, and the files after it are missing. Sifting
lets such names pass.

The names and all other texts here are texts of characters, which have an
encoding in UTF-8. The exact condition for a run to return holds for
those only: a name with half of a surrogate pair (`CodeText`) has no
encoding, so it would end the run like a null character does.
-/

set_option autoImplicit false

namespace IdeProjects

open FileTree

/-- Whether the directory was made for nothing or not, the files are the
settled ones. -/
theorem bytes?_settleAll {out : Path} {targets : List Target} {t t₁ t' : FileTree}
    {d : Location} (hmakes : Makes out t t₁)
    (htree : t' = settleAll out d t₁ targets ∨
      (t' = t ∧ ∀ target ∈ targets, ¬ Writable t₁ out d target.fileName))
    (place : Location) :
    t'.bytes? place = (settleAll out d t₁ targets).bytes? place := by
  rcases htree with rfl | ⟨rfl, hnone⟩
  · rfl
  · rw [settleAll_of_not_writable hnone, ← Storage.bytes?_after_makeDirectories out t',
      Session.after, hmakes.run]

/-- The targets that fail can be left out: the run over the others fails
nowhere and leaves the same bytes in all files. -/
theorem bringAllUpToDate_without_failures {out : Path} {targets : List Target}
    {outcomes : List Outcome} {t t' : FileTree} (hin : ∀ target ∈ targets, target.LiesIn out)
    (hout : out.hasNull = false)
    (hrun : (bringAllUpToDate .write targets : Session (List Outcome)) t = .ok outcomes t') :
    ∃ outcomes' t'', (bringAllUpToDate .write (targets.filter fun target =>
        target.path ∉ (outcomes.filterMap Outcome.failure?).map (·.path)) :
          Session (List Outcome)) t = .ok outcomes' t'' ∧
      outcomes'.filterMap Outcome.failure? = [] ∧
      ∀ place, t''.bytes? place = t'.bytes? place := by
  rcases bringAllUpToDate_eq_ok hin hout hrun with
    ⟨t₁, d, hmakes, hd, hnull, hall, htree⟩ | ⟨fault, t₁, hblocked, hall, htree⟩
  · -- Leaving out the paths that failed leaves out what is not writable.
    have hkept : (targets.filter fun target =>
          target.path ∉ (outcomes.filterMap Outcome.failure?).map (·.path)) =
        targets.filter fun target => decide (Writable t₁ out d target.fileName) := by
      refine List.filter_congr fun target htarget => decide_eq_decide.mpr ?_
      constructor
      · intro hmem
        by_contra hw
        obtain ⟨failure, hfailure, hpath⟩ := hall.failure_of_target htarget hw
        exact hmem (hpath ▸ List.mem_map_of_mem hfailure)
      · intro hw hmem
        obtain ⟨failure, hfailure, hpath⟩ := List.mem_map.mp hmem
        obtain ⟨other, _, hpath', hnot⟩ := hall.target_of_failure hfailure
        rw [hpath] at hpath'
        rw [Target.fileName, ← hpath'] at hnot
        exact hnot hw
    rw [hkept]
    obtain ⟨outcomes', t'', hrun', hall', htree'⟩ := bringAllUpToDate_of_makes
      (fun target htarget => hin target (List.mem_filter.mp htarget).1)
      (fun target htarget => hnull target (List.mem_filter.mp htarget).1) hmakes hd
    refine ⟨outcomes', t'', hrun', ?_, fun place => ?_⟩
    · rw [List.eq_nil_iff_forall_not_mem]
      intro failure hfailure
      obtain ⟨target, htarget, _, hnot⟩ := hall'.target_of_failure hfailure
      exact hnot (by simpa using (List.mem_filter.mp htarget).2)
    · rw [bytes?_settleAll hmakes htree', bytes?_settleAll hmakes htree, settleAll_filter]
  · -- Everything failed, so there is nothing left to run.
    have hkept : (targets.filter fun target =>
        target.path ∉ (outcomes.filterMap Outcome.failure?).map (·.path)) = [] := by
      rw [List.filter_eq_nil_iff]
      intro target htarget
      obtain ⟨failure, hfailure, hpath⟩ := hall.failure_of_target htarget id
      -- A target fails with its own path, so no target stays.
      simp only [decide_eq_true_eq, not_not]
      exact hpath ▸ List.mem_map_of_mem hfailure
    have hbytes : ∀ place, t₁.bytes? place = t.bytes? place := by
      intro place
      rw [← Storage.bytes?_after_makeDirectories out t, Session.after, hblocked]
    rw [hkept]
    refine ⟨[], t, rfl, rfl, fun place => ?_⟩
    rcases htree with rfl | rfl
    · exact (hbytes place).symm
    · rfl

/-! ### The result of a run -/

section

variable {base : Location} {request : SyncRequest} {t : FileTree} {scan : LibraryScan base}

/-- A failed write stays alone: every target has one entry in the result,
and the targets that fail can be left out without a trace. -/
structure Isolated (request : SyncRequest) (libraries : List (LibraryReference base))
    (units : List CompilationUnit) (result : SyncResult) (t t' : FileTree) : Prop where
  /-- The files and the failures are one list of outcomes, one for each
  target in its order. -/
  accounted : ∃ outcomes,
    List.Forall₂ (fun target outcome => outcome.Answers target)
      (runTargets request libraries units) outcomes ∧
    result.files = outcomes.filterMap Outcome.file? ∧
    result.failures = outcomes.filterMap Outcome.failure?
  /-- Without the targets that failed, no target fails and all files hold
  the same bytes. -/
  alone : ∃ outcomes t'', (bringAllUpToDate .write ((runTargets request libraries units).filter
      fun target => target.path ∉ result.failures.map (·.path)) : Session (List Outcome)) t =
        .ok outcomes t'' ∧
    outcomes.filterMap Outcome.failure? = [] ∧
    ∀ place, t''.bytes? place = t'.bytes? place

/-- A run that has scanned returns just when no name has a null
character or there is no output directory; if it does not, a null
character is why; and if it does, failed writes are isolated. -/
theorem sync_isolates (entries : List Snapshot.Entry) (hmode : request.mode = .write)
    (hscan : Session.outcome (scanLibraries base request.installRoot request.layout) t =
      .ok scan) :
    ((∃ run t', (sync base request entries : Session SyncRun) t = .ok run t') ↔
      request.outputDir.hasNull = false ∧
      (((∀ u ∈ (Snapshot.ofEntries entries).units, u.name.toList.contains '\x00' = false) ∧
        (solutionFileName (request.outputDir.locate base)).toList.contains '\x00' = false) ∨
      ¬ ∃ t₁, Makes request.outputDir t t₁)) ∧
    (∀ fault t', (sync base request entries : Session SyncRun) t = .error fault t' →
      fault = .nullCharacter) ∧
    ∀ run t', (sync base request entries : Session SyncRun) t = .ok run t' →
      Isolated request scan.libraries (Snapshot.ofEntries entries).units run.result t t' := by
  refine ⟨exists_sync_iff hmode hscan, fun fault t' hrun => sync_error hmode hscan hrun, ?_⟩
  intro run t' hrun
  obtain ⟨scan', outcomes, hscan', hout, hall, rfl⟩ := sync_eq_ok hrun
  rw [hscan] at hscan'
  cases hscan'
  rw [hmode] at hall
  have hin := liesIn_runTargets request scan.libraries (Snapshot.ofEntries entries).units
  constructor
  case accounted =>
    refine ⟨outcomes, ?_, rfl, rfl⟩
    rcases bringAllUpToDate_eq_ok hin hout hall with
      ⟨_, _, _, _, _, haccounts, _⟩ | ⟨_, _, _, haccounts, _⟩
    · exact List.Forall₂.imp (fun _ _ h => h.1) haccounts
    · exact List.Forall₂.imp (fun _ _ h => h.1) haccounts
  case alone => exact bringAllUpToDate_without_failures hin hout hall

end

/-- A directory in the place of the first file is in nobody else's way: the
run returns, records that one failure and writes the other files. -/
theorem sync_isolates_directory_in_the_way :
    let entries : List Snapshot.Entry := [.unit { name := "First" }, .unit { name := "Last" }]
    let t := smallTree [(["out", "First.csproj"], .directory)]
    ∃ run t', (sync [] smallRequest entries : Session SyncRun) t = .ok run t' ∧
      Isolated smallRequest ([] : List (LibraryReference [])) (Snapshot.ofEntries entries).units
        run.result t t' := by
  intro entries t
  have hscan := scan_smallRequest (show t.node? ["lib"] = none from rfl)
  have hrun := sync_isolates entries rfl hscan
  obtain ⟨run, t', hok⟩ := hrun.1.mpr ⟨by decide, Or.inl (by decide)⟩
  exact ⟨run, t', hok, hrun.2.2 run t' hok⟩

/-- Sifting keeps a unit with a null character in its name, and that name
ends the run before the last unit has its file. -/
theorem sync_ended_by_null_name :
    let entries : List Snapshot.Entry :=
      [.unit { name := "First" }, .unit { name := "a\x00b" }, .unit { name := "Last" }]
    (Snapshot.ofEntries entries).skipped = [] ∧
    (∃ scan, Session.outcome (scanLibraries [] smallRequest.installRoot smallRequest.layout)
      (smallTree []) = .ok scan) ∧
    ∃ t', (sync [] smallRequest entries : Session SyncRun) (smallTree []) =
      .error .nullCharacter t' := by
  intro entries
  have hscan := scan_smallRequest (show (smallTree []).node? ["lib"] = none from rfl)
  have hnull : ¬ ∃ run t', (sync [] smallRequest entries : Session SyncRun) (smallTree []) =
      .ok run t' := by
    rw [exists_sync_iff rfl hscan]
    rintro ⟨_, hnames | hnone⟩
    · revert hnames
      decide
    · exact hnone ⟨_, Storage.makeDirectories_of_directory (locate_smallTree [])⟩
  refine ⟨by decide, ⟨_, hscan⟩, ?_⟩
  cases hrun : (sync [] smallRequest entries : Session SyncRun) (smallTree []) with
  | ok run t' => exact absurd ⟨run, t', hrun⟩ hnull
  | error fault t' =>
      rw [sync_error rfl hscan hrun]
      exact ⟨t', rfl⟩

end IdeProjects
