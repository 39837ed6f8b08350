import IdeProjects.CommandLine.Run
import IdeProjects.Proofs.Sync.Modes
import IdeProjects.Proofs.Sync.PostState
import IdeProjects.Proofs.Text.Utf8
import IdeProjects.Proofs.Unit.Resolved

/-!
# `IdeProjects.Proofs.Sync.Repeat`: a run after a run

After a run without failures every file holds the text of the last unit
of its name. A second run looks at the files again, and so does a check:
they find nothing to do for a unit whose text is the one its file holds.
So there is nothing left to do just when units of one name have one text
(`TakesAll.upToDate_iff`); where they differ, the first of them drifts
in every check and is written in every run.

The libraries of the second scan may come in another order than those of
the first; the texts are the same (`runTargets_perm`).
-/

set_option autoImplicit false

namespace IdeProjects

open FileTree

/-! ### Files that were just written -/

/-- The directory `out` of a tree, which lies at `d`, takes all targets. -/
structure TakesAll (out : Path) (d : Location) (t : FileTree) (targets : List Target) :
    Prop where
  locate : t.locate out = .ok (.node d .directory)
  liesIn : ∀ target ∈ targets, target.LiesIn out
  named : ∀ target ∈ targets, target.hasNullName = false
  writable : ∀ target ∈ targets, Writable t out d target.fileName

namespace TakesAll

variable {out : Path} {t : FileTree} {d : Location} {targets : List Target}

/-- A directory that has taken all targets takes them again. -/
theorem settled (h : TakesAll out d t targets) :
    TakesAll out d (settleAll out d t targets) targets where
  locate := locate_settleAll targets h.locate
  liesIn := h.liesIn
  named := h.named
  writable target htarget := (writable_settleAll targets _).mpr (h.writable target htarget)

/-- The look at a target after all were written finds the text of one of
its name. -/
theorem existingBytes?_settleAll (h : TakesAll out d t targets) {target : Target}
    (htarget : target ∈ targets) :
    ∃ last ∈ targets, last.fileName = target.fileName ∧
      Session.outcome (existingBytes? target.path) (settleAll out d t targets) =
        .ok (some (Text.Utf8.encode last.content)) := by
  obtain ⟨last, hlast, hname, hnode⟩ :=
    node?_settleAll_of_mem htarget (h.writable target htarget)
  refine ⟨last, hlast, hname, ?_⟩
  rw [(h.liesIn target htarget).1]
  exact existingBytes?_of_file h.settled.locate (h.liesIn target htarget).2
    (h.named target htarget) (h.writable target htarget).1 hnode

/-- After all targets were written, all are up to date just when targets
of one name have one text. -/
theorem upToDate_iff (h : TakesAll out d t targets) :
    (∀ target ∈ targets, UpToDate (settleAll out d t targets) target) ↔
      ∀ target ∈ targets, ∀ other ∈ targets, target.fileName = other.fileName →
        target.content = other.content := by
  constructor
  · intro hup target htarget other hother hname
    have hpath : target.path = other.path := by
      rw [(h.liesIn target htarget).1, (h.liesIn other hother).1, hname]
    have hself := hup target htarget
    have hsecond := hup other hother
    rw [UpToDate, hpath] at hself
    rw [UpToDate, hself] at hsecond
    -- One file cannot hold two texts.
    exact Text.Utf8.encode_injective (by simpa using hsecond)
  · intro hsame target htarget
    obtain ⟨last, hlast, hname, hlook⟩ := h.existingBytes?_settleAll htarget
    rw [UpToDate, hlook, hsame last hlast target htarget hname]

end TakesAll

/-! ### The targets of both runs -/

section

variable {base : Location} {request : SyncRequest} {units : List CompilationUnit}

/-- The targets of a run do not depend on the order of the libraries. -/
theorem runTargets_perm (request : SyncRequest) (units : List CompilationUnit)
    {rs ss : List (LibraryReference base)} (h : rs.Perm ss) :
    runTargets request rs units = runTargets request ss units := by
  simp only [runTargets, projectTargets, resolve_perm _ h]

/-- Units of one name have one text. -/
def NamesAgree (request : SyncRequest) (libraries : List (LibraryReference base))
    (units : List CompilationUnit) : Prop :=
  ∀ u ∈ units, ∀ v ∈ units, u.name = v.name →
    (u.resolve libraries).projectText request.options =
      (v.resolve libraries).projectText request.options

/-- A unit that is given again as it is agrees with itself. -/
theorem namesAgree_of_eq {libraries : List (LibraryReference base)}
    (h : ∀ u ∈ units, ∀ v ∈ units, u.name = v.name → u = v) :
    NamesAgree request libraries units := by
  intro u hu v hv hname
  rw [h u hu v hv hname]

/-- Whether the texts agree does not depend on the order of the
libraries. -/
theorem namesAgree_perm (request : SyncRequest) (units : List CompilationUnit)
    {rs ss : List (LibraryReference base)} (h : rs.Perm ss) :
    NamesAgree request rs units ↔ NamesAgree request ss units := by
  simp only [NamesAgree, resolve_perm _ h]

/-- Only units of one name share a file, since a project file's name gives
back that of the unit and is never the name of the solution. So the condition
on units is one on the targets of the run. -/
theorem namesAgree_iff {libraries : List (LibraryReference base)} :
    NamesAgree request libraries units ↔
      ∀ target ∈ runTargets request libraries units,
        ∀ other ∈ runTargets request libraries units, target.fileName = other.fileName →
          target.content = other.content := by
  constructor
  · intro hagree target htarget other hother hname
    rcases mem_runTargets.mp htarget with ⟨u, hu, rfl⟩ | rfl
    · rcases mem_runTargets.mp hother with ⟨v, hv, rfl⟩ | rfl
      · rw [Target.fileName, Target.fileName, Path.name_child, Path.name_child] at hname
        exact hagree u hu v hv (projectFileName_injective hname)
      · rw [Target.fileName, Target.fileName, solutionTargetIn, Path.name_child,
          Path.name_child] at hname
        exact absurd hname (projectFileName_ne_solutionFileName _ _)
    · rcases mem_runTargets.mp hother with ⟨v, hv, rfl⟩ | rfl
      · rw [Target.fileName, Target.fileName, solutionTargetIn, Path.name_child,
          Path.name_child] at hname
        exact absurd hname.symm (projectFileName_ne_solutionFileName _ _)
      · rfl
  · intro hsame u hu v hv hname
    refine hsame _ (mem_runTargets.mpr (Or.inl ⟨u, hu, rfl⟩)) _
      (mem_runTargets.mpr (Or.inl ⟨v, hv, rfl⟩)) ?_
    rw [Target.fileName, Target.fileName, Path.name_child, Path.name_child, hname]

end

/-! ### Two runs -/

section

variable {base : Location} {request : SyncRequest} {entries : List Snapshot.Entry}
  {t t' : FileTree} {scan : LibraryScan base} {run : SyncRun}

/-- A run without failures has written all its targets into a directory
that takes them. -/
theorem takesAll_of_sync (hmode : request.mode = .write)
    (hscan : Session.outcome (scanLibraries base request.installRoot request.layout) t =
      .ok scan)
    (hrun : (sync base request entries : Session SyncRun) t = .ok run t')
    (hok : run.result.ok = true) :
    ∃ d t₁, TakesAll request.outputDir d t₁
        (runTargets request scan.libraries (Snapshot.ofEntries entries).units) ∧
      t' = settleAll request.outputDir d t₁
        (runTargets request scan.libraries (Snapshot.ofEntries entries).units) := by
  obtain ⟨scan', outcomes, hscan', hout, hall, rfl⟩ := sync_eq_ok hrun
  rw [hscan] at hscan'
  cases hscan'
  rw [hmode] at hall
  have hin := liesIn_runTargets request scan.libraries (Snapshot.ofEntries entries).units
  have hsolution : solutionTargetIn base request.outputDir (Snapshot.ofEntries entries).units ∈
      runTargets request scan.libraries (Snapshot.ofEntries entries).units :=
    mem_runTargets.mpr (Or.inr rfl)
  have hnone : outcomes.filterMap Outcome.failure? = [] := by
    simpa [SyncResult.ok, failures_ofOutcomes] using hok
  rcases bringAllUpToDate_eq_ok hin hout hall with
    ⟨t₁, d, _, hd, hnull, haccounts, htree⟩ | ⟨_, _, _, haccounts, _⟩
  · have hw : ∀ target ∈ runTargets request scan.libraries (Snapshot.ofEntries entries).units,
        Writable t₁ request.outputDir d target.fileName := by
      intro target htarget
      by_contra hno
      obtain ⟨failure, hfailure, _⟩ := haccounts.failure_of_target htarget hno
      simp [hnone] at hfailure
    refine ⟨d, t₁, ⟨hd, hin, hnull, hw⟩, ?_⟩
    rcases htree with htree | ⟨_, hunwritten⟩
    · exact htree
    · exact absurd (hw _ hsolution) (hunwritten _ hsolution)
  · -- Without the directory not even the solution is written.
    obtain ⟨failure, hfailure, _⟩ := haccounts.failure_of_target hsolution id
    simp [hnone] at hfailure

/-- A run into a directory that takes all targets has no failures. -/
theorem exists_sync_of_takesAll {d : Location} (hmode : request.mode = .write)
    (hscan : Session.outcome (scanLibraries base request.installRoot request.layout) t =
      .ok scan)
    (htakes : TakesAll request.outputDir d t
      (runTargets request scan.libraries (Snapshot.ofEntries entries).units)) :
    ∃ run t', (sync base request entries : Session SyncRun) t = .ok run t' ∧
      run.result.ok = true := by
  obtain ⟨run, t', hrun, hpaths⟩ := exists_sync_of_makes hmode hscan
    (Storage.makeDirectories_of_directory htakes.locate) htakes.locate htakes.named
  refine ⟨run, t', hrun, ?_⟩
  rw [List.filter_eq_nil_iff.mpr (by simpa using htakes.writable), List.map_nil,
    List.map_eq_nil_iff] at hpaths
  simp [SyncResult.ok, hpaths]

/-- A check of files that were all written has no failures. Every path leads
to a file by then, and a look at a file is never refused. -/
theorem exists_check_of_takesAll {d : Location} (showDiff : Bool)
    (hscan : Session.outcome (scanLibraries base request.installRoot request.layout) t' =
      .ok scan)
    (htakes : TakesAll request.outputDir d t
      (runTargets request scan.libraries (Snapshot.ofEntries entries).units))
    (htree : t' = settleAll request.outputDir d t
      (runTargets request scan.libraries (Snapshot.ofEntries entries).units)) :
    ∃ run t'', (sync base { request with mode := .check showDiff } entries : Session SyncRun) t' =
        .ok run t'' ∧ run.result.ok = true := by
  have hout : request.outputDir.hasNull = false := (locate_eq_ok_iff.mp htakes.locate).1
  have hlook : ∀ target ∈ runTargets request scan.libraries (Snapshot.ofEntries entries).units,
      ∃ existing, Session.outcome (existingBytes? target.path) t' = .ok existing := by
    intro target htarget
    obtain ⟨last, _, _, hfound⟩ := htakes.existingBytes?_settleAll htarget
    exact ⟨_, htree ▸ hfound⟩
  obtain ⟨outcomes, hrun, hnone⟩ := bringAllUpToDate_check showDiff hlook
  have hsync : (sync base { request with mode := .check showDiff } entries :
      Session SyncRun) t' = .ok (.ofOutcomes (Snapshot.ofEntries entries) scan outcomes) t' := by
    rw [sync_in_mode_of_scan _ hscan hout, hrun]
  exact ⟨_, _, hsync, by simp [SyncResult.ok, failures_ofOutcomes, hnone]⟩

/-- The files that a run has written are up to date for it just when
units of one name have one text. -/
theorem upToDate_iff_namesAgree {d : Location}
    (htakes : TakesAll request.outputDir d t
      (runTargets request scan.libraries (Snapshot.ofEntries entries).units))
    (htree : t' = settleAll request.outputDir d t
      (runTargets request scan.libraries (Snapshot.ofEntries entries).units)) :
    (∀ target ∈ runTargets request scan.libraries (Snapshot.ofEntries entries).units,
        UpToDate t' target) ↔
      NamesAgree request scan.libraries (Snapshot.ofEntries entries).units := by
  rw [htree, htakes.upToDate_iff, namesAgree_iff]

/-- A run over files that were all written has no failures, and finds
them all up to date just when units of one name have one text. -/
theorem second_run {d : Location} (hmode : request.mode = .write)
    (hscan : Session.outcome (scanLibraries base request.installRoot request.layout) t' =
      .ok scan)
    (htakes : TakesAll request.outputDir d t
      (runTargets request scan.libraries (Snapshot.ofEntries entries).units))
    (htree : t' = settleAll request.outputDir d t
      (runTargets request scan.libraries (Snapshot.ofEntries entries).units)) :
    ∃ again t'', (sync base request entries : Session SyncRun) t' = .ok again t'' ∧
      again.result.ok = true ∧
      ((∀ file ∈ again.result.files, file.status = .unchanged) ↔
        NamesAgree request scan.libraries (Snapshot.ofEntries entries).units) := by
  obtain ⟨again, t'', hagain, hok⟩ :=
    exists_sync_of_takesAll hmode hscan (htree ▸ htakes.settled)
  refine ⟨again, t'', hagain, hok, ?_⟩
  have hall := allUnchanged_iff hagain hscan
  rw [upToDate_iff_namesAgree htakes htree] at hall
  rw [← hall, SyncResult.AllUnchanged]
  simpa [SyncResult.ok] using fun _ => hok

/-- A check of files that were all written has no failures, and finds no
drift just when units of one name have one text. -/
theorem second_check {d : Location} (showDiff : Bool)
    (hscan : Session.outcome (scanLibraries base request.installRoot request.layout) t' =
      .ok scan)
    (htakes : TakesAll request.outputDir d t
      (runTargets request scan.libraries (Snapshot.ofEntries entries).units))
    (htree : t' = settleAll request.outputDir d t
      (runTargets request scan.libraries (Snapshot.ofEntries entries).units)) :
    ∃ check t'',
      (sync base { request with mode := .check showDiff } entries : Session SyncRun) t' =
        .ok check t'' ∧
      check.result.ok = true ∧
      (check.result.hasDrift = false ↔
        NamesAgree request scan.libraries (Snapshot.ofEntries entries).units) := by
  obtain ⟨check, t'', hcheck, hok⟩ := exists_check_of_takesAll showDiff hscan htakes htree
  have hall : check.result.AllUnchanged ↔
      NamesAgree request scan.libraries (Snapshot.ofEntries entries).units :=
    (allUnchanged_iff hcheck hscan).trans (upToDate_iff_namesAgree htakes htree)
  rw [allUnchanged_iff_of_check rfl hcheck] at hall
  refine ⟨check, t'', hcheck, hok, ?_⟩
  rw [← hall]
  simp [hok]

/-- The exit code of a check that has no failures. -/
theorem exitCode_of_check (hok : run.result.ok = true) (verbose : Bool) (early : List String) :
    (run.shown verbose true early).exitCode = 0 ↔ run.result.hasDrift = false := by
  cases hdrift : run.result.hasDrift <;>
    simp [SyncRun.shown, hok, hdrift, CommandOutput.unfinishedCode]

/-- After a run without failures and a scan that finds the same libraries
again, a second run returns without failures, and so does a check. There
is nothing left to do, for either, just when units of one name have one
text. -/
theorem sync_again {scan' : LibraryScan base} (hmode : request.mode = .write)
    (hscan : Session.outcome (scanLibraries base request.installRoot request.layout) t =
      .ok scan)
    (hrun : (sync base request entries : Session SyncRun) t = .ok run t')
    (hok : run.result.ok = true)
    (hscan' : Session.outcome (scanLibraries base request.installRoot request.layout) t' =
      .ok scan')
    (hsame : scan'.libraries.Perm scan.libraries) :
    (∃ again t'', (sync base request entries : Session SyncRun) t' = .ok again t'' ∧
      again.result.ok = true ∧
      ((∀ file ∈ again.result.files, file.status = .unchanged) ↔
        NamesAgree request scan.libraries (Snapshot.ofEntries entries).units)) ∧
    ∀ showDiff, ∃ check t'',
      (sync base { request with mode := .check showDiff } entries : Session SyncRun) t' =
        .ok check t'' ∧
      check.result.ok = true ∧
      (check.result.hasDrift = false ↔
        NamesAgree request scan.libraries (Snapshot.ofEntries entries).units) ∧
      ∀ verbose early, (check.shown verbose true early).exitCode = 0 ↔
        NamesAgree request scan.libraries (Snapshot.ofEntries entries).units := by
  obtain ⟨d, t₁, htakes, htree⟩ := takesAll_of_sync hmode hscan hrun hok
  -- The targets of the second run are those of the first.
  rw [← runTargets_perm request _ hsame] at htakes htree
  rw [← namesAgree_perm request _ hsame]
  refine ⟨second_run hmode hscan' htakes htree, fun showDiff => ?_⟩
  obtain ⟨check, t'', hcheck, hcheckok, hdrift⟩ := second_check showDiff hscan' htakes htree
  refine ⟨check, t'', hcheck, hcheckok, hdrift, fun verbose early => ?_⟩
  rw [exitCode_of_check hcheckok, hdrift]

end

/-! ### Names that repeat -/

section

variable {entries : List Snapshot.Entry}

/-- The small setting takes all files whose names are no longer than
names can be. -/
theorem takesAll_smallTree (entries : List Snapshot.Entry)
    (hnamed : ∀ target ∈ runTargets smallRequest ([] : List (LibraryReference []))
      (Snapshot.ofEntries entries).units,
      target.hasNullName = false ∧ Writable (smallTree []) smallRequest.outputDir ["out"]
        target.fileName) :
    TakesAll smallRequest.outputDir ["out"] (smallTree [])
      (runTargets smallRequest ([] : List (LibraryReference []))
        (Snapshot.ofEntries entries).units) where
  locate := locate_smallTree []
  liesIn := liesIn_runTargets smallRequest [] _
  named target htarget := (hnamed target htarget).1
  writable target htarget := (hnamed target htarget).2

/-- A small run brings no installation. -/
theorem no_installation_of_sync {run : SyncRun} {t t' : FileTree}
    (hnone : t.node? ["lib"] = none)
    (hrun : (sync [] smallRequest entries : Session SyncRun) t = .ok run t') :
    t'.node? ["lib"] = none := by
  obtain ⟨scan, outcomes, _, hout, hall, rfl⟩ := sync_eq_ok hrun
  have hin := liesIn_runTargets smallRequest scan.libraries (Snapshot.ofEntries entries).units
  rcases node?_after_writes (by decide) (by decide) hin hout hall ["lib"] with
    ⟨f, hf, heq, _⟩ | hsame | ⟨_, _, hprefix⟩
  · obtain ⟨n, hn⟩ := child_of_reported hin hout hall
      (List.mem_append_left _ (List.mem_map_of_mem hf))
    rw [hn, Path.parts_child] at heq
    simp [smallRequest] at heq
  · rw [hsame, hnone]
  · simp [smallRequest] at hprefix

/-- A name given twice with one text: the second run finds nothing to
do. -/
theorem sync_again_one_text :
    let entries : List Snapshot.Entry := [.unit { name := "A", defines := ["X"] },
      .unit { name := "A", defines := ["X"] }, .unit { name := "B" }]
    ∃ run t', (sync [] smallRequest entries : Session SyncRun) (smallTree []) = .ok run t' ∧
      run.result.ok = true ∧
      ∃ again t'', (sync [] smallRequest entries : Session SyncRun) t' = .ok again t'' ∧
        ∀ file ∈ again.result.files, file.status = .unchanged := by
  intro entries
  have hscan := scan_smallRequest (show (smallTree []).node? ["lib"] = none from rfl)
  have htakes := takesAll_smallTree entries (by decide)
  obtain ⟨run, t', hrun, hok⟩ := exists_sync_of_takesAll rfl hscan htakes
  have hscan' := scan_smallRequest (no_installation_of_sync rfl hrun)
  obtain ⟨again, t'', hagain, _, hall⟩ :=
    (sync_again rfl hscan hrun hok hscan' (List.Perm.refl _)).1
  exact ⟨run, t', hrun, hok, again, t'', hagain, hall.mpr (namesAgree_of_eq (by decide))⟩

/-- A name given twice with two texts: nothing has changed since the first
run, and yet the second one writes and a check finds drift. -/
theorem sync_again_two_texts :
    let entries : List Snapshot.Entry := [.unit { name := "A", defines := ["X"] },
      .unit { name := "A", defines := ["Y"] }]
    ∃ run t', (sync [] smallRequest entries : Session SyncRun) (smallTree []) = .ok run t' ∧
      run.result.ok = true ∧
      Session.outcome (scanLibraries [] smallRequest.installRoot smallRequest.layout) t' =
        Session.outcome (scanLibraries [] smallRequest.installRoot smallRequest.layout)
          (smallTree []) ∧
      (∃ again t'', (sync [] smallRequest entries : Session SyncRun) t' = .ok again t'' ∧
        ¬ ∀ file ∈ again.result.files, file.status = .unchanged) ∧
      ∃ check t'', (sync [] { smallRequest with mode := .check false } entries :
          Session SyncRun) t' = .ok check t'' ∧
        check.result.hasDrift = true := by
  intro entries
  have hscan := scan_smallRequest (show (smallTree []).node? ["lib"] = none from rfl)
  have htakes := takesAll_smallTree entries (by decide)
  have hdiffer : ¬ NamesAgree smallRequest ([] : List (LibraryReference []))
      (Snapshot.ofEntries entries).units := by
    intro hagree
    have htexts := hagree { name := "A", defines := ["X"] } (by decide)
      { name := "A", defines := ["Y"] } (by decide) rfl
    revert htexts
    decide +kernel
  obtain ⟨run, t', hrun, hok⟩ := exists_sync_of_takesAll rfl hscan htakes
  have hscan' := scan_smallRequest (no_installation_of_sync rfl hrun)
  -- The first of the two texts is not the one that the first run has left.
  obtain ⟨d, t₁, htakes₁, htree⟩ := takesAll_of_sync rfl hscan hrun hok
  obtain ⟨again, t'', hagain, _, hall⟩ := second_run rfl hscan' htakes₁ htree
  obtain ⟨check, t₃, hcheck, _, hdrift⟩ := second_check false hscan' htakes₁ htree
  refine ⟨run, t', hrun, hok, hscan'.trans hscan.symm, ⟨again, t'', hagain, ?_⟩,
    check, t₃, hcheck, ?_⟩
  · exact fun hunchanged => hdiffer (hall.mp hunchanged)
  · rw [← Bool.not_eq_false]
    exact fun hnone => hdiffer (hdrift.mp hnone)

end

end IdeProjects
