import IdeProjects.Proofs.Sync.Modes
import IdeProjects.Proofs.Sync.PostState
import IdeProjects.Proofs.Unit.LeftOut
import Mathlib.Logic.Function.Basic

/-!
# `IdeProjects.Proofs.Sync.Accounting`: nothing is lost in a result

A run tells lists apart three times: the entries it is given into the kept
and the skipped ones, the targets into files and failures, and the files
by how they stand. Each time the parts `Interleave` to the whole: every
element is in one part, once, and the parts keep the order. That is so of
every list that is told apart by filters (`interleave_filter`), so what
is left to show is that each outcome carries the path and the unit of its
target: one target (`entry_of_bringUpToDate`), then all of them
(`map_entry_of_bringAllUpToDate`). It holds in every mode and whatever the
targets before have left.

A file that is given twice is reported twice, but never once as done and
once as failed (`failure_path_ne_file_path_in_mode`).
-/

set_option autoImplicit false

namespace IdeProjects

open FileTree

/-! ### Lists that are told apart -/

/-- The lists `parts` interleave to `whole`: its elements stand in them in
order, each in one of them. -/
inductive Interleave {ι α : Type} [DecidableEq ι] : (ι → List α) → List α → Prop where
  | nil : Interleave (fun _ => []) []
  | cons {parts : ι → List α} {whole : List α} (i : ι) (x : α) (rest : Interleave parts whole) :
      Interleave (Function.update parts i (x :: parts i)) (x :: whole)

/-- Each of the lists keeps the order. -/
theorem Interleave.sublist {ι α : Type} [DecidableEq ι] {parts : ι → List α} {whole : List α}
    (h : Interleave parts whole) (i : ι) : (parts i).Sublist whole := by
  induction h with
  | nil => exact .slnil
  | cons j x rest ih =>
      by_cases hi : i = j
      · subst hi
        rw [Function.update_self]
        exact ih.cons_cons x
      · rw [Function.update_of_ne hi]
        exact ih.cons x

/-- A list that is told apart by a value of its elements. -/
theorem interleave_filter {ι α β : Type} [DecidableEq ι] (f : α → ι) (g : α → β) (xs : List α) :
    Interleave (fun i => (xs.filter (f · = i)).map g) (xs.map g) := by
  induction xs with
  | nil => exact .nil
  | cons x rest ih =>
      -- The head goes to the front of the list that its value names.
      have hparts : (fun i => ((x :: rest).filter (f · = i)).map g) =
          Function.update (fun i => (rest.filter (f · = i)).map g) (f x)
            (g x :: (rest.filter (f · = f x)).map g) := by
        funext i
        by_cases hi : f x = i
        · subst hi
          simp
        · rw [Function.update_of_ne (Ne.symm hi), List.filter_cons_of_neg (by simpa using hi)]
      rw [hparts]
      exact ih.cons (f x) (g x)

/-! ### Entries: kept or skipped -/

namespace Snapshot

/-- Why an entry is left out. -/
def Entry.reason? (entry : Entry) : Option String :=
  match entry.sift with
  | .ok _ => none
  | .error reason => some reason

/-- Whether an entry is kept. -/
def Entry.stays (entry : Entry) : Bool := entry.reason?.isNone

/-- An entry that stays is that of the unit that is kept. -/
theorem Entry.map_unit_sift (entry : Entry) :
    entry.sift.toOption.map Entry.unit = Option.guard stays entry := by
  cases hsift : entry.sift with
  | ok u =>
      obtain ⟨rfl, _⟩ := sift_eq_ok.mp hsift
      simp [stays, reason?, hsift, Except.toOption, Option.guard]
  | error reason => simp [stays, reason?, hsift, Except.toOption, Option.guard]

/-- The entries that stay are those of the kept units. -/
theorem filter_stays (entries : List Entry) :
    entries.filter Entry.stays = (ofEntries entries).units.map .unit := by
  rw [ofEntries, units_ofEntriesFrom, List.map_filterMap, ← List.filterMap_eq_filter]
  exact List.filterMap_congr fun entry _ => entry.map_unit_sift.symm

/-- The entries that are skipped are those with a reason, at their positions.
-/
theorem skipped_ofEntriesFrom (index : Nat) (entries : List Entry) :
    (ofEntriesFrom index entries).skipped = leftOut Entry.reason? index entries := by
  induction entries generalizing index with
  | nil => rfl
  | cons entry rest ih =>
      rw [ofEntriesFrom, leftOut_cons, Entry.reason?]
      cases entry.sift with
      | ok u => exact ih (index + 1)
      | error reason => exact congrArg (List.cons _) (ih (index + 1))

/-- The recorded positions are those of the entries that do not stay. -/
theorem map_index_skipped (entries : List Entry) :
    (ofEntries entries).skipped.map (·.index) =
      (positionsFrom (!·.stays) 0 entries).map Nat.cast := by
  rw [ofEntries, skipped_ofEntriesFrom, map_index_leftOut]
  simp [Entry.stays]

/-- The positions of the entries that stay and the recorded ones make up
all positions. -/
theorem interleave_positions (entries : List Entry) :
    Interleave (fun stays : Bool =>
        if stays then (positionsFrom Entry.stays 0 entries).map Nat.cast
        else (ofEntries entries).skipped.map (·.index))
      ((List.range entries.length).map (Nat.cast : Nat → Int)) := by
  -- The entries are told apart with their positions beside them.
  have hall := interleave_filter (fun e => Entry.stays e.1) (fun e => (e.2 : Int))
    (entries.zipIdx 0)
  have hwhole : (entries.zipIdx 0).map (fun e => (e.2 : Int)) =
      (List.range entries.length).map Nat.cast := by
    rw [List.range_eq_range', ← List.zipIdx_map_snd, List.map_map]
    rfl
  rw [hwhole] at hall
  convert hall using 2 with stays
  cases stays with
  | true => simp [positionsFrom]
  | false => simp [map_index_skipped, positionsFrom]

end Snapshot

/-! ### Targets: done or failed -/

/-- The path and the unit that an outcome is reported under. -/
def Outcome.entry : Outcome → Path × Option String
  | .done file _ => (file.path, file.unit)
  | .failed failure => (failure.path, failure.unit)

/-- The paths and the units of the files that are done, or of those that
failed. -/
def SyncResult.entries (r : SyncResult) (done : Bool) : List (Path × Option String) :=
  if done then r.files.map fun f => (f.path, f.unit)
  else r.failures.map fun f => (f.path, f.unit)

/-- The files of a result are the outcomes that are done, and its failures are
the others, each with path and unit. -/
theorem entries_ofOutcomes {base : Location} (snapshot : Snapshot) (scan : LibraryScan base)
    (outcomes : List Outcome) (done : Bool) :
    (SyncRun.ofOutcomes snapshot scan outcomes).result.entries done =
      (outcomes.filter (·.isDone = done)).map Outcome.entry := by
  induction outcomes with
  | nil => cases done <;> rfl
  | cons outcome rest ih =>
      cases outcome with
      | done file diff =>
          cases done with
          | true => exact congrArg (List.cons _) ih
          | false => exact ih
      | failed failure =>
          cases done with
          | true => exact ih
          | false => exact congrArg (List.cons _) ih

section

variable {mode : WriteMode} {targets : List Target} {outcomes : List Outcome} {t t' : FileTree}

/-- The outcome of a target is reported under its path and its unit. -/
theorem entry_of_bringUpToDate {target : Target} {outcome : Outcome}
    (hrun : (target.bringUpToDate mode : Session Outcome) t = .ok outcome t') :
    outcome.entry = (target.path, target.unit) := by
  rcases bringUpToDate_eq_ok hrun with ⟨_, rfl⟩ | ⟨diff, rfl⟩ | ⟨message, rfl⟩
  · rfl
  · rfl
  · rfl

/-- Every target has its outcome, in the order of the targets. -/
theorem map_entry_of_bringAllUpToDate
    (hrun : (bringAllUpToDate mode targets : Session (List Outcome)) t = .ok outcomes t') :
    outcomes.map Outcome.entry = targets.map fun target => (target.path, target.unit) := by
  induction targets generalizing t outcomes with
  | nil =>
      cases hrun
      rfl
  | cons target rest ih =>
      obtain ⟨outcome, others, t₁, hself, hrest, rfl⟩ := bringAllUpToDate_cons_eq_ok hrun
      rw [List.map_cons, List.map_cons, entry_of_bringUpToDate hself, ih hrest]

/-- A mode that writes nothing fails where the look at a file is refused, and
nowhere else: once the bytes are known every such mode only compares them. -/
theorem isDone_iff_of_ne_write (hmode : mode ≠ .write) {target : Target} {outcome : Outcome}
    (hrun : (target.bringUpToDate mode : Session Outcome) t = .ok outcome t') :
    outcome.isDone = true ↔
      ∃ existing, Session.outcome (existingBytes? target.path) t = .ok existing := by
  rw [bringUpToDate_apply, writeIfChanged_apply] at hrun
  cases hlook : Session.outcome (existingBytes? target.path) t with
  | error fault =>
      rw [hlook] at hrun
      cases fault with
      | file error =>
          cases hrun
          simp [Outcome.isDone]
      | _ => cases hrun
  | ok existing =>
      refine ⟨fun _ => ⟨existing, rfl⟩, fun _ => ?_⟩
      rw [hlook] at hrun
      dsimp only at hrun
      by_cases hsame : existing = some (Text.Utf8.encode target.content)
      · rw [if_pos hsame] at hrun
        cases hrun
        rfl
      · rw [if_neg hsame] at hrun
        cases mode with
        | write => exact absurd rfl hmode
        | _ =>
            cases hrun
            rfl

/-- Where nothing is written, all looks are at one tree, so what becomes of
a file is decided by its path. -/
theorem isDone_iff_of_bringAllUpToDate (hmode : mode ≠ .write)
    (hrun : (bringAllUpToDate mode targets : Session (List Outcome)) t = .ok outcomes t') :
    ∀ outcome ∈ outcomes, (outcome.isDone = true ↔
      ∃ existing, Session.outcome (existingBytes? outcome.entry.1) t = .ok existing) := by
  induction targets generalizing outcomes with
  | nil =>
      cases hrun
      simp
  | cons target rest ih =>
      obtain ⟨outcome, others, t₁, hself, hrest, rfl⟩ := bringAllUpToDate_cons_eq_ok hrun
      -- The others are looked at in the tree that this one was looked at in.
      have htree : t₁ = t := by
        have hafter := readOnly_bringUpToDate hmode target t
        rwa [Session.after, hself] at hafter
      intro other hother
      rcases List.mem_cons.mp hother with rfl | hlater
      · rw [entry_of_bringUpToDate hself]
        exact isDone_iff_of_ne_write hmode hself
      · exact ih (htree ▸ hrest) other hlater

/-- In no mode is a file reported both as done and as failed. The write has
its own reasons for that; the others take both entries from one look at one
tree. -/
theorem failure_path_ne_file_path_in_mode {out : Path}
    (hin : ∀ target ∈ targets, target.LiesIn out) (hout : out.hasNull = false)
    (hrun : (bringAllUpToDate mode targets : Session (List Outcome)) t = .ok outcomes t')
    {f : FileStatus} {failure : WriteFailure} (hf : f ∈ outcomes.filterMap Outcome.file?)
    (hfailure : failure ∈ outcomes.filterMap Outcome.failure?) :
    failure.path ≠ f.path := by
  by_cases hmode : mode = .write
  · subst hmode
    exact failure_path_ne_file_path hin hout hrun hf hfailure
  · have hdone := isDone_iff_of_bringAllUpToDate hmode hrun
    obtain ⟨outcome, houtcome, hfile⟩ := List.mem_filterMap.mp hf
    obtain ⟨other, hother, hfailed⟩ := List.mem_filterMap.mp hfailure
    cases outcome with
    | failed _ => cases hfile
    | done file diff =>
        cases other with
        | done _ _ => cases hfailed
        | failed failure' =>
            cases hfile
            cases hfailed
            intro heq
            -- The look at the one path would be let through and refused.
            have hlook := (hdone _ houtcome).mp rfl
            have hdone' := (hdone _ hother).mpr
            dsimp only [Outcome.entry] at hlook hdone'
            rw [heq] at hdone'
            exact Bool.false_ne_true (hdone' hlook)

end

/-! ### Results -/

/-- The field of a report that lists the files that stand in one way. -/
def WriteStatus.field : WriteStatus → String
  | .unchanged => "unchanged"
  | .drift => "drift"
  | .wouldWrite => "would_write"
  | .written => "written"

/-- The files of a report are told apart by how they stand. -/
theorem SyncResult.interleave_pathsWith (r : SyncResult) :
    Interleave r.pathsWith (r.files.map (·.path.text)) :=
  interleave_filter FileStatus.status (·.path.text) r.files

/-- A report passes if nothing has failed. -/
theorem SyncResult.report_passes_iff (r : SyncResult) :
    r.report.field? "status" = some (.text "pass") ↔ r.failures = [] := by
  have hfield : r.report.field? "status" = some (.text (if r.ok then "pass" else "fail")) := rfl
  rw [hfield]
  cases hok : r.ok <;> simp_all [ok]

/-- All that a run was given and all that it had to do is in its result,
once. The units are the kept ones. -/
structure Accounted (base : Location) (request : SyncRequest) (entries : List Snapshot.Entry)
    (units : List CompilationUnit) (check dryRun : Bool) (result : SyncResult) : Prop where
  /-- Every position is that of a kept unit or of a skipped entry. -/
  positions : ∃ kept : List Nat,
    kept.map (fun i => entries[i]?) = units.map (fun u => some (.unit u)) ∧
    Interleave (fun stays : Bool =>
        if stays then kept.map Nat.cast else result.skipped.map (·.index))
      ((List.range entries.length).map (Nat.cast : Nat → Int))
  /-- The recorded positions ascend. -/
  ascending : (result.skipped.map (·.index)).Pairwise (· < ·)
  /-- Files and failures are the kept units and then the solution, each in
  one of the two lists. -/
  targets : Interleave result.entries
    (units.map (fun u => (request.outputDir.child (projectFileName u.name), some u.name)) ++
      [(request.outputDir.child (solutionFileName (request.outputDir.locate base)), none)])
  /-- No file is in both lists. -/
  apart : ∀ file ∈ result.files, ∀ failure ∈ result.failures, failure.path ≠ file.path
  /-- A check that is also a dry run is a check. -/
  statuses : ∀ file ∈ result.files, file.status = .unchanged ∨
    file.status = if check then .drift else if dryRun then .wouldWrite else .written
  /-- The report lists the paths of the files by how they stand, and each
  path is in one of the lists. -/
  listed : (∀ status, result.report.field? status.field =
      some (.ofTexts (result.pathsWith status))) ∧
    Interleave result.pathsWith (result.files.map (·.path.text))
  /-- The report passes if nothing has failed. -/
  passes : result.report.field? "status" = some (.text "pass") ↔ result.failures = []

/-- Whatever the switches of a run and whatever the tree, a run that
returns accounts for all its entries and all its files. -/
theorem sync_accounted {base : Location} {request : SyncRequest}
    {entries : List Snapshot.Entry} {check dryRun showDiff : Bool} {t t' : FileTree}
    {run : SyncRun}
    (hrun : (sync base { request with mode := .ofSwitches check dryRun showDiff } entries :
      Session SyncRun) t = .ok run t') :
    Accounted base request entries (Snapshot.ofEntries entries).units check dryRun run.result := by
  obtain ⟨scan, outcomes, _, hout, hall, rfl⟩ := sync_eq_ok hrun
  constructor
  case positions =>
    refine ⟨positionsFrom Snapshot.Entry.stays 0 entries, ?_, Snapshot.interleave_positions entries⟩
    rw [map_getElem?_positionsFrom, Snapshot.filter_stays, List.map_map]
    rfl
  case ascending =>
    have hascend : ((List.range entries.length).map (Nat.cast : Nat → Int)).Pairwise (· < ·) :=
      List.pairwise_map.mpr (List.pairwise_lt_range.imp Int.ofNat_lt.mpr)
    exact hascend.sublist ((Snapshot.interleave_positions entries).sublist false)
  case targets =>
    have hentries : (SyncRun.ofOutcomes (Snapshot.ofEntries entries) scan outcomes).result.entries =
        fun done => (outcomes.filter (·.isDone = done)).map Outcome.entry :=
      funext (entries_ofOutcomes _ scan outcomes)
    -- Files and failures are one list of outcomes, told apart by `isDone`.
    have htargets := interleave_filter Outcome.isDone Outcome.entry outcomes
    rw [map_entry_of_bringAllUpToDate hall] at htargets
    rw [hentries]
    simpa [runTargets, projectTargets, solutionTargetIn, Function.comp_def] using htargets
  case apart =>
    intro file hfile failure hfailure
    exact failure_path_ne_file_path_in_mode (liesIn_runTargets _ _ _) hout hall hfile hfailure
  case statuses =>
    have hstatus : (WriteMode.ofSwitches check dryRun showDiff).status =
        if check then .drift else if dryRun then .wouldWrite else .written := by
      cases check <;> cases dryRun <;> rfl
    rw [← hstatus]
    exact status_of_bringAllUpToDate hall
  case listed => exact ⟨fun status => by cases status <;> rfl, SyncResult.interleave_pathsWith _⟩
  case passes => exact SyncResult.report_passes_iff _

/-- Two entries that are skipped, a name given twice, and a directory in
the way of one file: the run that writes returns, and that file is the only
one that fails. -/
theorem sync_accounted_directory_in_the_way :
    let entries : List Snapshot.Entry := [.unit { name := "First" }, .absent,
      .unit { name := "Last", defines := ["X"] }, .unit { name := "../up" },
      .unit { name := "Last" }]
    let t := smallTree [(["out", "First.csproj"], .directory)]
    ∃ run t', (sync [] { smallRequest with mode := .ofSwitches false false true } entries :
        Session SyncRun) t = .ok run t' ∧
      run.result.failures.map (·.path) = [⟨.slash, ["out", "First.csproj"]⟩] ∧
      Accounted [] smallRequest entries (Snapshot.ofEntries entries).units false false
        run.result := by
  intro entries t
  have hscan := scan_smallRequest (show t.node? ["lib"] = none from rfl)
  have hfound := locate_smallTree [(["out", "First.csproj"], .directory)]
  obtain ⟨run, t', hrun, hpaths⟩ := exists_sync_of_makes rfl hscan
    (Storage.makeDirectories_of_directory hfound) hfound
    (show ∀ target ∈ runTargets smallRequest _ (Snapshot.ofEntries entries).units, _ by decide)
  have hrun' : (sync [] { smallRequest with mode := .ofSwitches false false true } entries :
      Session SyncRun) t = .ok run t' := hrun
  exact ⟨run, t', hrun', hpaths.trans (by decide), sync_accounted hrun'⟩

end IdeProjects
