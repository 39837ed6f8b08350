import IdeProjects.Proofs.Sync.Run

/-!
# `IdeProjects.Proofs.Sync.Modes`: what the modes have in common

The modes differ in what they do about a file that is not up to date.
A target is `UpToDate` in a tree when the look at its file finds its
bytes; then every mode says so and changes nothing, and no mode calls any
other target unchanged (`bringUpToDate_cases`).

A check sees all targets in one tree, a run in the mode `write` sees each
in the tree that the targets before it have left. But as long as all
targets are up to date the tree stays what it is, so by induction on the
targets both find nothing to do in the same trees
(`all_unchanged_iff_upToDate`), whatever names repeat.
-/

set_option autoImplicit false

namespace IdeProjects

open FileTree

/-! ### One target -/

/-- The look at the file of a target finds its bytes. -/
def UpToDate (t : FileTree) (target : Target) : Prop :=
  Session.outcome (existingBytes? target.path) t = .ok (some (Text.Utf8.encode target.content))

/-- The outcome of a target that is up to date. -/
def Target.unchanged (target : Target) : Outcome :=
  .done ⟨target.path, .unchanged, target.unit⟩ none

/-- How a mode calls a file that it finds not to be up to date. -/
def WriteMode.status : WriteMode → WriteStatus
  | .write => .written
  | .dryRun => .wouldWrite
  | .check _ => .drift

/-- No mode calls a file that it had to deal with unchanged. -/
theorem WriteMode.status_ne_unchanged (mode : WriteMode) : mode.status ≠ .unchanged := by
  cases mode <;> simp [WriteMode.status]

/-- Whether the file was up to date. -/
def Outcome.isUnchanged : Outcome → Bool
  | .done file _ => file.status == .unchanged
  | .failed _ => false

/-- The outcome of a target that is up to date counts as unchanged. -/
@[simp] theorem Target.isUnchanged_unchanged (target : Target) :
    target.unchanged.isUnchanged = true := rfl

/-- All that can become of a target: it is up to date, and then nothing
happens; or it is not, and then it is reported as the mode says, it
fails, or it ends the run. Only the mode `write` changes the tree. -/
theorem bringUpToDate_cases (mode : WriteMode) (target : Target) (t : FileTree) :
    (UpToDate t target ∧
      (target.bringUpToDate mode : Session Outcome) t = .ok target.unchanged t) ∨
    (¬ UpToDate t target ∧ ∃ t', (mode ≠ .write → t' = t) ∧
      ((∃ diff, (target.bringUpToDate mode : Session Outcome) t =
          .ok (.done ⟨target.path, mode.status, target.unit⟩ diff) t') ∨
        (∃ message, (target.bringUpToDate mode : Session Outcome) t =
          .ok (.failed ⟨target.path, message, target.unit⟩) t') ∨
        ∃ fault, (target.bringUpToDate mode : Session Outcome) t = .error fault t')) := by
  rw [bringUpToDate_apply, writeIfChanged_apply, UpToDate]
  -- The look comes first and is the same in all modes.
  cases hlook : Session.outcome (existingBytes? target.path) t with
  | error fault =>
      refine Or.inr ⟨by simp, t, fun _ => rfl, Or.inr ?_⟩
      cases fault with
      | file error => exact Or.inl ⟨error.message, rfl⟩
      | _ => exact Or.inr ⟨_, rfl⟩
  | ok existing =>
      by_cases hsame : existing = some (Text.Utf8.encode target.content)
      · exact Or.inl ⟨by rw [hsame], by simp [hsame, Target.unchanged]⟩
      · refine Or.inr ⟨by simpa using hsame, ?_⟩
        dsimp only
        rw [if_neg hsame]
        cases mode with
        | check showDiff => exact ⟨t, fun _ => rfl, Or.inl ⟨_, rfl⟩⟩
        | dryRun => exact ⟨t, fun _ => rfl, Or.inl ⟨_, rfl⟩⟩
        | write =>
            dsimp only
            cases (Storage.writeWithin target.path (Text.Utf8.encode target.content) :
                Session Unit) t with
            | ok _ t' => exact ⟨t', by simp, Or.inl ⟨_, rfl⟩⟩
            | error fault t' =>
                refine ⟨t', by simp, Or.inr ?_⟩
                cases fault with
                | file error => exact Or.inl ⟨error.message, rfl⟩
                | _ => exact Or.inr ⟨_, rfl⟩

/-- A target that is up to date is left alone in every mode. -/
theorem bringUpToDate_of_upToDate (mode : WriteMode) {target : Target} {t : FileTree}
    (h : UpToDate t target) :
    (target.bringUpToDate mode : Session Outcome) t = .ok target.unchanged t := by
  rcases bringUpToDate_cases mode target t with ⟨_, hrun⟩ | ⟨hnot, _⟩
  · exact hrun
  · exact absurd h hnot

/-- What becomes of a target that does not end the run: it is up to date, it
has the status of the mode, or it failed. A write is not the only way to fail,
since the look at the file may be refused. -/
theorem bringUpToDate_eq_ok {mode : WriteMode} {target : Target} {t t' : FileTree}
    {outcome : Outcome}
    (hrun : (target.bringUpToDate mode : Session Outcome) t = .ok outcome t') :
    (UpToDate t target ∧ outcome = target.unchanged) ∨
    (∃ diff, outcome = .done ⟨target.path, mode.status, target.unit⟩ diff) ∨
    ∃ message, outcome = .failed ⟨target.path, message, target.unit⟩ := by
  rcases bringUpToDate_cases mode target t with
    ⟨hup, hone⟩ | ⟨_, _, _, ⟨diff, hone⟩ | ⟨message, hone⟩ | ⟨_, hone⟩⟩
  · rw [hone] at hrun
    cases hrun
    exact Or.inl ⟨hup, rfl⟩
  · rw [hone] at hrun
    cases hrun
    exact Or.inr (Or.inl ⟨diff, rfl⟩)
  · rw [hone] at hrun
    cases hrun
    exact Or.inr (Or.inr ⟨message, rfl⟩)
  · rw [hone] at hrun
    cases hrun

/-- What a mode calls a file it does not fail on, and only a file that is
up to date is called unchanged. -/
theorem file?_of_bringUpToDate {mode : WriteMode} {target : Target} {t t' : FileTree}
    {outcome : Outcome} {file : FileStatus}
    (hrun : (target.bringUpToDate mode : Session Outcome) t = .ok outcome t')
    (hfile : outcome.file? = some file) :
    (file.status = .unchanged ∧ UpToDate t target) ∨ file.status = mode.status := by
  rcases bringUpToDate_eq_ok hrun with ⟨hup, rfl⟩ | ⟨diff, rfl⟩ | ⟨message, rfl⟩
  · cases hfile
    exact Or.inl ⟨rfl, hup⟩
  · cases hfile
    exact Or.inr rfl
  · cases hfile

/-- No mode calls another target unchanged. -/
theorem upToDate_of_isUnchanged {mode : WriteMode} {target : Target} {t t' : FileTree}
    {outcome : Outcome}
    (hrun : (target.bringUpToDate mode : Session Outcome) t = .ok outcome t')
    (h : outcome.isUnchanged = true) : UpToDate t target := by
  cases outcome with
  | failed failure => cases h
  | done file diff =>
      have hstatus : file.status = .unchanged := by simpa [Outcome.isUnchanged] using h
      rcases file?_of_bringUpToDate hrun rfl with ⟨_, hup⟩ | hmode
      · exact hup
      · exact absurd (hmode.symm.trans hstatus) mode.status_ne_unchanged

/-- Only the mode `write` changes anything. -/
theorem readOnly_bringUpToDate {mode : WriteMode} (hmode : mode ≠ .write) (target : Target) :
    Session.ReadOnly (target.bringUpToDate mode : Session Outcome) := by
  intro t
  rw [Session.after]
  rcases bringUpToDate_cases mode target t with
    ⟨_, hrun⟩ | ⟨_, t', htree, ⟨diff, hrun⟩ | ⟨message, hrun⟩ | ⟨fault, hrun⟩⟩
  · rw [hrun]
  · rw [hrun, htree hmode]
  · rw [hrun, htree hmode]
  · rw [hrun, htree hmode]

/-! ### All targets -/

/-- Only the mode `write` changes files, whatever the targets are. -/
theorem readOnly_bringAllUpToDate {mode : WriteMode} (hmode : mode ≠ .write)
    (targets : List Target) :
    Session.ReadOnly (bringAllUpToDate mode targets : Session (List Outcome)) := by
  induction targets with
  | nil => exact Session.readOnly_pure _
  | cons target rest ih =>
      exact (readOnly_bringUpToDate hmode target).bind fun _ =>
        ih.bind fun _ => Session.readOnly_pure _

/-- Targets that are all up to date are left alone in every mode. -/
theorem bringAllUpToDate_of_upToDate (mode : WriteMode) {targets : List Target} {t : FileTree}
    (h : ∀ target ∈ targets, UpToDate t target) :
    (bringAllUpToDate mode targets : Session (List Outcome)) t =
      .ok (targets.map Target.unchanged) t := by
  induction targets with
  | nil => rfl
  | cons target rest ih =>
      rw [bringAllUpToDate_cons, bringUpToDate_of_upToDate mode (h target (by simp))]
      dsimp only
      rw [ih fun other hother => h other (by simp [hother])]
      rfl

/-- In every mode a run over targets returns and finds nothing to do just
when all targets are up to date in the tree it starts from. -/
theorem all_unchanged_iff_upToDate (mode : WriteMode) (targets : List Target) (t : FileTree) :
    (∃ outcomes t', (bringAllUpToDate mode targets : Session (List Outcome)) t =
        .ok outcomes t' ∧ ∀ outcome ∈ outcomes, outcome.isUnchanged = true) ↔
      ∀ target ∈ targets, UpToDate t target := by
  constructor
  · rintro ⟨outcomes, t', hrun, hall⟩
    induction targets generalizing outcomes with
    | nil => simp
    | cons target rest ih =>
        obtain ⟨outcome, others, t₁, hself, hrest, rfl⟩ := bringAllUpToDate_cons_eq_ok hrun
        have hup := upToDate_of_isUnchanged hself (hall outcome (by simp))
        -- A target that is up to date leaves the tree to the others as it is.
        rw [bringUpToDate_of_upToDate mode hup] at hself
        cases hself
        have hothers := ih others hrest fun other hother => hall other (by simp [hother])
        intro other hother
        rcases List.mem_cons.mp hother with rfl | hmem
        · exact hup
        · exact hothers other hmem
  · intro h
    refine ⟨_, t, bringAllUpToDate_of_upToDate mode h, ?_⟩
    simp

/-- A check whose looks are not refused fails nowhere and leaves the tree as
it is. By induction on the targets, all of which are looked up in the one
tree. -/
theorem bringAllUpToDate_check (showDiff : Bool) {targets : List Target} {t : FileTree}
    (hlook : ∀ target ∈ targets, ∃ existing,
      Session.outcome (existingBytes? target.path) t = .ok existing) :
    ∃ outcomes, (bringAllUpToDate (.check showDiff) targets : Session (List Outcome)) t =
        .ok outcomes t ∧ outcomes.filterMap Outcome.failure? = [] := by
  induction targets with
  | nil => exact ⟨[], rfl, rfl⟩
  | cons target rest ih =>
      obtain ⟨existing, hself⟩ := hlook target (by simp)
      obtain ⟨outcomes, hrest, hnone⟩ := ih fun other hother => hlook other (by simp [hother])
      have hdone : ∃ file diff, (target.bringUpToDate (.check showDiff) : Session Outcome) t =
          .ok (.done file diff) t := by
        rw [bringUpToDate_apply, writeIfChanged_apply, hself]
        dsimp only
        by_cases hsame : existing = some (Text.Utf8.encode target.content)
        · rw [if_pos hsame]
          exact ⟨_, _, rfl⟩
        · rw [if_neg hsame]
          exact ⟨_, _, rfl⟩
      obtain ⟨file, diff, hrun⟩ := hdone
      refine ⟨.done file diff :: outcomes, ?_, by simpa [Outcome.failure?] using hnone⟩
      rw [bringAllUpToDate_cons, hrun]
      dsimp only
      rw [hrest]

/-- What a mode calls the files it does not fail on. -/
theorem status_of_bringAllUpToDate {mode : WriteMode} {targets : List Target} {t t' : FileTree}
    {outcomes : List Outcome}
    (hrun : (bringAllUpToDate mode targets : Session (List Outcome)) t = .ok outcomes t') :
    ∀ file ∈ outcomes.filterMap Outcome.file?,
      file.status = .unchanged ∨ file.status = mode.status := by
  induction targets generalizing t outcomes with
  | nil =>
      cases hrun
      simp
  | cons target rest ih =>
      obtain ⟨outcome, others, t₁, hself, hrest, rfl⟩ := bringAllUpToDate_cons_eq_ok hrun
      intro file hfile
      obtain ⟨outcome', hmem, hsome⟩ := List.mem_filterMap.mp hfile
      rcases List.mem_cons.mp hmem with rfl | hlater
      · exact (file?_of_bringUpToDate hself hsome).imp_left And.left
      · exact ih hrest file (List.mem_filterMap.mpr ⟨outcome', hlater, hsome⟩)

/-! ### A check and a dry run -/

/-- A drift of a check is a write that a dry run would do. -/
def WriteStatus.asDryRun : WriteStatus → WriteStatus
  | .drift => .wouldWrite
  | status => status

def FileStatus.asDryRun (f : FileStatus) : FileStatus := { f with status := f.status.asDryRun }

/-- The outcome of a dry run where a check has this one. -/
def Outcome.asDryRun : Outcome → Outcome
  | .done file _ => .done file.asDryRun none
  | .failed failure => .failed failure

/-- The files of a dry run are those of the check, with its own statuses. -/
theorem file?_asDryRun (outcomes : List Outcome) :
    (outcomes.map Outcome.asDryRun).filterMap Outcome.file? =
      (outcomes.filterMap Outcome.file?).map FileStatus.asDryRun := by
  rw [List.filterMap_map, List.map_filterMap]
  congr 1
  funext outcome
  cases outcome <;> rfl

/-- The failures of a dry run are those of the check: both fail where a look
fails. -/
theorem failure?_asDryRun (outcomes : List Outcome) :
    (outcomes.map Outcome.asDryRun).filterMap Outcome.failure? =
      outcomes.filterMap Outcome.failure? := by
  rw [List.filterMap_map]
  congr 1
  funext outcome
  cases outcome <;> rfl

/-- The result of a dry run where a check has this one. -/
def SyncResult.asDryRun (r : SyncResult) : SyncResult :=
  { r with files := r.files.map FileStatus.asDryRun }

/-- For one target a dry run finds what a check finds, for both only look at
the file. -/
theorem bringUpToDate_dryRun (showDiff : Bool) (target : Target) (t : FileTree) :
    Session.outcome (target.bringUpToDate .dryRun) t =
      (Session.outcome (target.bringUpToDate (.check showDiff)) t).map Outcome.asDryRun := by
  unfold Session.outcome
  rw [bringUpToDate_apply, bringUpToDate_apply, writeIfChanged_apply, writeIfChanged_apply]
  cases Session.outcome (existingBytes? target.path) t with
  | error fault => cases fault <;> rfl
  | ok existing =>
      by_cases hsame : existing = some (Text.Utf8.encode target.content)
      · simp [hsame, Except.map, Outcome.asDryRun, FileStatus.asDryRun, WriteStatus.asDryRun]
      · simp [hsame, Except.map, Outcome.asDryRun, FileStatus.asDryRun, WriteStatus.asDryRun]

/-- A dry run of all targets is the check of them with the statuses renamed.
Neither changes the tree for the next target, so the agreement for one target
carries over. -/
theorem bringAllUpToDate_dryRun (showDiff : Bool) (targets : List Target) (t : FileTree) :
    Session.outcome (bringAllUpToDate .dryRun targets) t =
      (Session.outcome (bringAllUpToDate (.check showDiff) targets) t).map
        (List.map Outcome.asDryRun) := by
  have hdry : (WriteMode.dryRun) ≠ .write := by simp
  have hcheck : (WriteMode.check showDiff) ≠ .write := by simp
  induction targets with
  | nil => rfl
  | cons target rest ih =>
      -- Neither changes the tree, so the others start from the same one.
      have hself := bringUpToDate_dryRun showDiff target t
      unfold Session.outcome
      rw [bringAllUpToDate_cons, bringAllUpToDate_cons,
        (readOnly_bringUpToDate hdry target).apply,
        (readOnly_bringUpToDate hcheck target).apply, hself]
      cases Session.outcome (target.bringUpToDate (.check showDiff)) t with
      | error fault => rfl
      | ok outcome =>
          dsimp only [Except.map]
          rw [(readOnly_bringAllUpToDate hdry rest).apply,
            (readOnly_bringAllUpToDate hcheck rest).apply, ih]
          cases Session.outcome (bringAllUpToDate (.check showDiff) rest) t <;> rfl

/-! ### Whole runs -/

/-- A run has found all files up to date. -/
def SyncResult.AllUnchanged (r : SyncResult) : Prop :=
  (∀ file ∈ r.files, file.status = .unchanged) ∧ r.failures = []

/-- The files and failures of outcomes that are all unchanged. -/
theorem all_isUnchanged_iff (outcomes : List Outcome) :
    (∀ outcome ∈ outcomes, outcome.isUnchanged = true) ↔
      (∀ file ∈ outcomes.filterMap Outcome.file?, file.status = .unchanged) ∧
        outcomes.filterMap Outcome.failure? = [] := by
  induction outcomes with
  | nil => simp
  | cons outcome rest ih =>
      rw [List.forall_mem_cons, ih]
      cases outcome with
      | done file diff => simp [Outcome.isUnchanged, Outcome.file?, Outcome.failure?, and_assoc]
      | failed failure => simp [Outcome.isUnchanged, Outcome.failure?]

/-- The result of a run with the outcomes of a dry run is that of the dry run:
its other parts do not read the outcomes. -/
theorem result_asDryRun {base : Location} (snapshot : Snapshot) (scan : LibraryScan base)
    (outcomes : List Outcome) :
    (SyncRun.ofOutcomes snapshot scan (outcomes.map Outcome.asDryRun)).result =
      (SyncRun.ofOutcomes snapshot scan outcomes).result.asDryRun := by
  simp only [SyncRun.ofOutcomes, SyncResult.asDryRun, file?_asDryRun, failure?_asDryRun]

section

variable {base : Location} {request : SyncRequest} {entries : List Snapshot.Entry}
  {t : FileTree}

/-- A run in another mode than `write` leaves every tree as it is. -/
theorem after_sync_of_ne_write (hmode : request.mode ≠ .write) :
    Session.after (sync base request entries) t = t := by
  unfold Session.after
  cases hscan : Session.outcome (scanLibraries base request.installRoot request.layout) t with
  | error fault => rw [sync_of_scan_error hscan]
  | ok scan =>
      cases hout : request.outputDir.hasNull with
      | true => rw [sync_of_null hscan hout]
      | false =>
          rw [sync_of_scan hscan hout, (readOnly_bringAllUpToDate hmode _).apply]
          cases Session.outcome (bringAllUpToDate request.mode
            (runTargets request scan.libraries (Snapshot.ofEntries entries).units)) t <;> rfl

/-- A run in any mode returns and has found all files up to date just
when all targets are up to date in the tree it starts from. The mode
does not occur on the right side. -/
theorem sync_allUnchanged_iff :
    (∃ run t', (sync base request entries : Session SyncRun) t = .ok run t' ∧
        run.result.AllUnchanged) ↔
      ∃ scan, Session.outcome (scanLibraries base request.installRoot request.layout) t =
          .ok scan ∧ request.outputDir.hasNull = false ∧
        ∀ target ∈ runTargets request scan.libraries (Snapshot.ofEntries entries).units,
          UpToDate t target := by
  constructor
  · rintro ⟨run, t', hrun, hall⟩
    obtain ⟨scan, outcomes, hscan, hout, htargets, rfl⟩ := sync_eq_ok hrun
    have hunchanged := (all_isUnchanged_iff outcomes).mpr hall
    exact ⟨scan, hscan, hout,
      (all_unchanged_iff_upToDate _ _ t).mp ⟨outcomes, t', htargets, hunchanged⟩⟩
  · rintro ⟨scan, hscan, hout, hup⟩
    obtain ⟨outcomes, t', hrun, hall⟩ := (all_unchanged_iff_upToDate request.mode _ t).mpr hup
    refine ⟨.ofOutcomes (Snapshot.ofEntries entries) scan outcomes, t', ?_, ?_⟩
    · rw [sync_of_scan hscan hout, hrun]
    · exact (all_isUnchanged_iff outcomes).mp hall

/-- A given run has found all files up to date just when all targets are
up to date in the tree it started from. -/
theorem allUnchanged_iff {scan : LibraryScan base} {run : SyncRun} {t' : FileTree}
    (hrun : (sync base request entries : Session SyncRun) t = .ok run t')
    (hscan : Session.outcome (scanLibraries base request.installRoot request.layout) t =
      .ok scan) :
    run.result.AllUnchanged ↔
      ∀ target ∈ runTargets request scan.libraries (Snapshot.ofEntries entries).units,
        UpToDate t target := by
  constructor
  · intro hall
    obtain ⟨scan', hscan', _, hup⟩ := sync_allUnchanged_iff.mp ⟨run, t', hrun, hall⟩
    rw [hscan] at hscan'
    cases hscan'
    exact hup
  · intro hup
    obtain ⟨_, _, _, hout, _⟩ := sync_eq_ok hrun
    obtain ⟨run', t'', hrun', hall⟩ := sync_allUnchanged_iff.mpr ⟨scan, hscan, hout, hup⟩
    rw [hrun] at hrun'
    cases hrun'
    exact hall

/-- Runs in all modes find nothing to do in the same trees. -/
theorem sync_allUnchanged_congr (base : Location) (request : SyncRequest)
    (entries : List Snapshot.Entry) (t : FileTree) (mode mode' : WriteMode) :
    (∃ run t', (sync base { request with mode := mode } entries : Session SyncRun) t =
        .ok run t' ∧ run.result.AllUnchanged) ↔
      ∃ run t', (sync base { request with mode := mode' } entries : Session SyncRun) t =
        .ok run t' ∧ run.result.AllUnchanged := by
  rw [sync_allUnchanged_iff, sync_allUnchanged_iff]
  rfl

/-- A run that has found all files up to date has changed nothing. -/
theorem after_sync_of_allUnchanged {run : SyncRun} {t' : FileTree}
    (hrun : (sync base request entries : Session SyncRun) t = .ok run t')
    (hall : run.result.AllUnchanged) : t' = t := by
  obtain ⟨scan, hscan, hout, hup⟩ := sync_allUnchanged_iff.mp ⟨run, t', hrun, hall⟩
  rw [sync_of_scan hscan hout, bringAllUpToDate_of_upToDate request.mode hup] at hrun
  cases hrun
  rfl

/-- A check calls files unchanged or drifted. -/
theorem status_of_check {run : SyncRun} {t' : FileTree} {showDiff : Bool}
    (hmode : request.mode = .check showDiff)
    (hrun : (sync base request entries : Session SyncRun) t = .ok run t') :
    ∀ file ∈ run.result.files, file.status = .unchanged ∨ file.status = .drift := by
  obtain ⟨scan, outcomes, _, _, htargets, rfl⟩ := sync_eq_ok hrun
  rw [hmode] at htargets
  exact status_of_bringAllUpToDate htargets

/-- A check without failures and drift has found all files up to date. -/
theorem allUnchanged_iff_of_check {run : SyncRun} {t' : FileTree} {showDiff : Bool}
    (hmode : request.mode = .check showDiff)
    (hrun : (sync base request entries : Session SyncRun) t = .ok run t') :
    run.result.AllUnchanged ↔ run.result.ok = true ∧ run.result.hasDrift = false := by
  have hstatus := status_of_check hmode hrun
  simp only [SyncResult.AllUnchanged, SyncResult.ok, List.isEmpty_iff, SyncResult.hasDrift,
    List.any_eq_false, beq_iff_eq]
  constructor
  · rintro ⟨hall, hnone⟩
    exact ⟨hnone, fun file hfile => by simp [hall file hfile]⟩
  · rintro ⟨hnone, hnodrift⟩
    exact ⟨fun file hfile => (hstatus file hfile).resolve_right (hnodrift file hfile), hnone⟩

/-- A dry run and a check end alike, and a drift in the check is a write
to come in the dry run. -/
theorem sync_dryRun (base : Location) (request : SyncRequest) (entries : List Snapshot.Entry)
    (showDiff : Bool) (t : FileTree) :
    (Session.outcome (sync base { request with mode := .dryRun } entries) t).map (·.result) =
      (Session.outcome (sync base { request with mode := .check showDiff } entries) t).map
        (·.result.asDryRun) := by
  unfold Session.outcome
  -- A run that writes nothing ends at its scan, at the path of the
  -- solution, or after all targets.
  cases hscan : Session.outcome (scanLibraries base request.installRoot request.layout) t with
  | error fault =>
      have herror : ∀ mode, (sync base { request with mode := mode } entries :
          Session SyncRun) t = .error fault t := fun mode => sync_of_scan_error hscan
      rw [herror, herror]
      rfl
  | ok scan =>
      cases hout : request.outputDir.hasNull with
      | true =>
          have hnull : ∀ mode, (sync base { request with mode := mode } entries :
              Session SyncRun) t = .error .nullCharacter t := fun mode => sync_of_null hscan hout
          rw [hnull, hnull]
          rfl
      | false =>
          have hdry : (WriteMode.dryRun) ≠ .write := by simp
          have hcheck : (WriteMode.check showDiff) ≠ .write := by simp
          rw [sync_in_mode_of_scan _ hscan hout, sync_in_mode_of_scan _ hscan hout,
            (readOnly_bringAllUpToDate hdry _).apply,
            (readOnly_bringAllUpToDate hcheck _).apply, bringAllUpToDate_dryRun showDiff]
          cases Session.outcome (bringAllUpToDate (.check showDiff) (runTargets request
              scan.libraries (Snapshot.ofEntries entries).units)) t with
          | error fault => rfl
          | ok outcomes => exact congrArg Except.ok (result_asDryRun _ scan outcomes)

end

/-- What a check, a dry run and a run in the mode `write` have in common,
each of them started in `t`. -/
structure ModesAgree (check dryRun write : Session SyncRun) (t : FileTree) : Prop where
  /-- A check changes nothing, also when it ends early. -/
  checkKeeps : check.after t = t
  /-- A dry run changes nothing, also when it ends early. -/
  dryRunKeeps : dryRun.after t = t
  /-- A check reports files as unchanged or drifted. -/
  checkStatus : ∀ run t', check t = .ok run t' →
    ∀ file ∈ run.result.files, file.status = .unchanged ∨ file.status = .drift
  /-- Where the check reports a drift the dry run reports a write to
  come; all else is the same, failures and faults included. -/
  sameResult : (dryRun.outcome t).map (·.result) = (check.outcome t).map (·.result.asDryRun)
  /-- The check finds nothing to do just when there is nothing to do. -/
  clean_iff :
    (∃ run t', check t = .ok run t' ∧ run.result.ok = true ∧ run.result.hasDrift = false) ↔
      ∃ run t', write t = .ok run t' ∧ (∀ file ∈ run.result.files, file.status = .unchanged) ∧
        run.result.failures = []
  /-- With nothing to do, the real run changes nothing either. -/
  writeKeeps : ∀ run t', write t = .ok run t' →
    (∀ file ∈ run.result.files, file.status = .unchanged) → run.result.failures = [] → t' = t

/-- The three modes agree on every tree and for all arguments. Each part comes
from the run of one target: what it reports depends on the look at the file,
and only the write changes anything after that. -/
theorem sync_modesAgree (base : Location) (request : SyncRequest)
    (entries : List Snapshot.Entry) (dryRun showDiff showDiff' showDiff'' : Bool)
    (t : FileTree) :
    ModesAgree
      (sync base { request with mode := .ofSwitches true dryRun showDiff } entries)
      (sync base { request with mode := .ofSwitches false true showDiff' } entries)
      (sync base { request with mode := .ofSwitches false false showDiff'' } entries) t where
  checkKeeps := after_sync_of_ne_write (by simp [WriteMode.ofSwitches])
  dryRunKeeps := after_sync_of_ne_write (by simp [WriteMode.ofSwitches])
  checkStatus run t' hrun := status_of_check rfl hrun
  sameResult := sync_dryRun base request entries showDiff t
  clean_iff := by
    refine Iff.trans ?_ (sync_allUnchanged_congr base request entries t
      (.ofSwitches true dryRun showDiff) (.ofSwitches false false showDiff''))
    constructor
    · rintro ⟨run, t', hrun, hclean⟩
      exact ⟨run, t', hrun, (allUnchanged_iff_of_check rfl hrun).mpr hclean⟩
    · rintro ⟨run, t', hrun, hall⟩
      exact ⟨run, t', hrun, (allUnchanged_iff_of_check rfl hrun).mp hall⟩
  writeKeeps run t' hrun hfiles hfailures := after_sync_of_allUnchanged hrun ⟨hfiles, hfailures⟩

end IdeProjects
