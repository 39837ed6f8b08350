import IdeProjects.Proofs.Library.Scan
import IdeProjects.Proofs.Sync.Writes
import IdeProjects.Proofs.Unit.FileNames

/-!
# `IdeProjects.Proofs.Sync.Run`: a run as one list of targets

The solution file has a target like any project file, except that an
output directory with a null character has no place to name it after.
`runTargets` is the list of all targets, the solution last, and
`sync_of_scan` is the run equation: a scan of the tree, and then that
list. With a null character in the output directory no run returns, in
no mode, and none has changed anything (`sync_of_null`). Elsewhere a null
character is the one thing that ends a run in the mode `write` after its
scan; `exists_sync_iff` says exactly when.
-/

set_option autoImplicit false

namespace IdeProjects

open FileTree

/-! ### The targets of a run -/

/-- The target of the solution in a directory that has a place. -/
def solutionTargetIn (base : Location) (outputDir : Path) (units : List CompilationUnit) :
    Target where
  path := outputDir.child (solutionFileName (outputDir.locate base))
  content := solutionText (units.map (·.name))
  unit := none

/-- The solution has a target unless the output directory has a null character
in its path. -/
theorem solutionTarget_eq (base : Location) (outputDir : Path) (units : List CompilationUnit) :
    solutionTarget base outputDir units =
      if outputDir.hasNull then .error .nullCharacter
      else .ok (solutionTargetIn base outputDir units) := by
  unfold solutionTarget Path.resolve
  split <;> rfl

/-- All targets of a run in their order. -/
def runTargets {base : Location} (request : SyncRequest)
    (libraries : List (LibraryReference base)) (units : List CompilationUnit) : List Target :=
  projectTargets request.outputDir request.options libraries units ++
    [solutionTargetIn base request.outputDir units]

section

variable {base : Location} {request : SyncRequest} {libraries : List (LibraryReference base)}
  {units : List CompilationUnit}

/-- A target of a run is that of a unit or that of the solution. -/
theorem mem_runTargets {target : Target} :
    target ∈ runTargets request libraries units ↔
      (∃ u ∈ units, target = {
        path := request.outputDir.child (projectFileName u.name)
        content := (u.resolve libraries).projectText request.options
        unit := some u.name }) ∨
      target = solutionTargetIn base request.outputDir units := by
  rw [runTargets, List.mem_append, List.mem_singleton, projectTargets, List.mem_map]
  simp only [eq_comm]

/-- All targets of a run lie in the output directory. -/
theorem liesIn_runTargets (request : SyncRequest) (libraries : List (LibraryReference base))
    (units : List CompilationUnit) :
    ∀ target ∈ runTargets request libraries units, target.LiesIn request.outputDir := by
  intro target htarget
  rcases mem_runTargets.mp htarget with ⟨u, _, rfl⟩ | rfl
  · exact ⟨by simp [Target.fileName], by simpa [Target.fileName] using projectFileName_ne_dots _⟩
  · exact ⟨by simp [Target.fileName, solutionTargetIn],
      by simpa [Target.fileName, solutionTargetIn] using solutionFileName_ne_dots _⟩

/-- The names of the files of a run hold a null character just when that
of a unit or of the solution does. -/
theorem forall_hasNullName_runTargets (request : SyncRequest)
    (libraries : List (LibraryReference base)) (units : List CompilationUnit) :
    (∀ target ∈ runTargets request libraries units, target.hasNullName = false) ↔
      (∀ u ∈ units, u.name.toList.contains '\x00' = false) ∧
        (solutionFileName (request.outputDir.locate base)).toList.contains '\x00' = false := by
  simp only [mem_runTargets]
  constructor
  · intro h
    constructor
    · intro u hu
      have hproject := h _ (Or.inl ⟨u, hu, rfl⟩)
      rwa [Target.hasNullName, Target.fileName, Path.name_child,
        contains_null_projectFileName] at hproject
    · have hsolution := h _ (Or.inr rfl)
      rwa [Target.hasNullName, Target.fileName, solutionTargetIn, Path.name_child] at hsolution
  · rintro ⟨hunits, hsolution⟩ target (⟨u, hu, rfl⟩ | rfl)
    · rw [Target.hasNullName, Target.fileName, Path.name_child, contains_null_projectFileName]
      exact hunits u hu
    · rw [Target.hasNullName, Target.fileName, solutionTargetIn, Path.name_child]
      exact hsolution

/-- The target of one unit among those of a run. -/
theorem runTargets_split (request : SyncRequest) (libraries : List (LibraryReference base))
    {before after : List CompilationUnit} {u : CompilationUnit}
    (h : units = before ++ u :: after) :
    runTargets request libraries units =
      projectTargets request.outputDir request.options libraries before ++
        { path := request.outputDir.child (projectFileName u.name)
          content := (u.resolve libraries).projectText request.options
          unit := some u.name } ::
        (projectTargets request.outputDir request.options libraries after ++
          [solutionTargetIn base request.outputDir units]) := by
  simp [runTargets, projectTargets, h]

/-- After the last unit of a name no target has its file. -/
theorem fileName_of_later {u : CompilationUnit} {after : List CompilationUnit}
    (hlast : ∀ v ∈ after, v.name ≠ u.name) {other : Target}
    (h : other ∈ projectTargets request.outputDir request.options libraries after ++
      [solutionTargetIn base request.outputDir units]) :
    other.fileName ≠ (request.outputDir.child (projectFileName u.name)).name := by
  rw [Path.name_child]
  rcases List.mem_append.mp h with hproject | hsolution
  · obtain ⟨v, hv, rfl⟩ := List.mem_map.mp hproject
    intro heq
    rw [Target.fileName, Path.name_child] at heq
    exact hlast v hv (projectFileName_injective heq)
  · rw [List.mem_singleton.mp hsolution, Target.fileName, solutionTargetIn, Path.name_child]
    exact (projectFileName_ne_solutionFileName _ _).symm

end

/-! ### The run equation -/

/-- The failures of a run are those of its outcomes. -/
theorem failures_ofOutcomes {base : Location} (snapshot : Snapshot) (scan : LibraryScan base)
    (outcomes : List Outcome) :
    (SyncRun.ofOutcomes snapshot scan outcomes).result.failures =
      outcomes.filterMap Outcome.failure? := rfl

section

variable {base : Location} {request : SyncRequest} {entries : List Snapshot.Entry}
  {t : FileTree}

/-- A scan that fails ends the run. -/
theorem sync_of_scan_error {fault : Fault}
    (hscan : Session.outcome (scanLibraries base request.installRoot request.layout) t =
      .error fault) :
    (sync base request entries : Session SyncRun) t = .error fault t := by
  rw [sync, Session.bind_apply, (readOnly_scanLibraries _ _ _).apply, hscan]

/-- A run after its scan, one part after the other: the projects, the question
whether the solution has a path at all, and the solution. A fault of any part
ends the run with the tree that part left. -/
theorem sync_of_scan_ok {scan : LibraryScan base}
    (hscan : Session.outcome (scanLibraries base request.installRoot request.layout) t =
      .ok scan) :
    (sync base request entries : Session SyncRun) t =
      match (bringAllUpToDate request.mode (projectTargets request.outputDir request.options
          scan.libraries (Snapshot.ofEntries entries).units) : Session (List Outcome)) t with
      | .error fault t' => .error fault t'
      | .ok projects t' =>
        if request.outputDir.hasNull then .error .nullCharacter t'
        else match ((solutionTargetIn base request.outputDir
            (Snapshot.ofEntries entries).units).bringUpToDate request.mode :
              Session Outcome) t' with
          | .error fault t'' => .error fault t''
          | .ok solution t'' =>
            .ok (.ofOutcomes (Snapshot.ofEntries entries) scan (projects ++ [solution])) t'' := by
  -- The scan only looks, so the targets start from the same tree.
  rw [sync, Session.bind_apply, (readOnly_scanLibraries _ _ _).apply, hscan]
  dsimp only
  rw [Session.bind_apply]
  cases (bringAllUpToDate request.mode (projectTargets request.outputDir request.options
      scan.libraries (Snapshot.ofEntries entries).units) : Session (List Outcome)) t with
  | error fault t' => rfl
  | ok projects t' =>
      dsimp only
      rw [solutionTarget_eq]
      cases request.outputDir.hasNull with
      | true => rfl
      | false =>
          show ((solutionTargetIn base request.outputDir
            (Snapshot.ofEntries entries).units).bringUpToDate request.mode >>= fun solution =>
              pure (SyncRun.ofOutcomes (Snapshot.ofEntries entries) scan
                (projects ++ [solution])) : Session SyncRun) t' = _
          rw [Session.bind_apply]
          cases ((solutionTargetIn base request.outputDir
            (Snapshot.ofEntries entries).units).bringUpToDate request.mode :
              Session Outcome) t' <;> rfl

/-- The run equation: after its scan, a run is the run over all its
targets. -/
theorem sync_of_scan {scan : LibraryScan base}
    (hscan : Session.outcome (scanLibraries base request.installRoot request.layout) t =
      .ok scan) (hout : request.outputDir.hasNull = false) :
    (sync base request entries : Session SyncRun) t =
      match (bringAllUpToDate request.mode (runTargets request scan.libraries
          (Snapshot.ofEntries entries).units) : Session (List Outcome)) t with
      | .ok outcomes t' => .ok (.ofOutcomes (Snapshot.ofEntries entries) scan outcomes) t'
      | .error fault t' => .error fault t' := by
  rw [sync_of_scan_ok hscan, runTargets, bringAllUpToDate_append]
  cases (bringAllUpToDate request.mode (projectTargets request.outputDir request.options
      scan.libraries (Snapshot.ofEntries entries).units) : Session (List Outcome)) t with
  | error fault t' => rfl
  | ok projects t' =>
      dsimp only
      rw [if_neg (by simp [hout]), bringAllUpToDate_cons]
      cases ((solutionTargetIn base request.outputDir
        (Snapshot.ofEntries entries).units).bringUpToDate request.mode :
          Session Outcome) t' <;> rfl

/-- The run equation of one request in another mode. The targets are the
same, since they do not read the mode. -/
theorem sync_in_mode_of_scan (mode : WriteMode) {scan : LibraryScan base}
    (hscan : Session.outcome (scanLibraries base request.installRoot request.layout) t =
      .ok scan) (hout : request.outputDir.hasNull = false) :
    (sync base { request with mode := mode } entries : Session SyncRun) t =
      match (bringAllUpToDate mode (runTargets request scan.libraries
          (Snapshot.ofEntries entries).units) : Session (List Outcome)) t with
      | .ok outcomes t' => .ok (.ofOutcomes (Snapshot.ofEntries entries) scan outcomes) t'
      | .error fault t' => .error fault t' :=
  sync_of_scan hscan hout

/-- Targets in a directory that no path can name: each drifts, or the
first one ends the run. -/
theorem bringAllUpToDate_of_null_directory {out : Path} (mode : WriteMode)
    {targets : List Target} (hin : ∀ target ∈ targets, target.LiesIn out)
    (hout : out.hasNull = true) :
    (∃ outcomes, (bringAllUpToDate mode targets : Session (List Outcome)) t = .ok outcomes t) ∨
      (bringAllUpToDate mode targets : Session (List Outcome)) t = .error .nullCharacter t := by
  -- No target changes the tree, so the hypothesis for the others is
  -- about the same tree.
  induction targets with
  | nil => exact Or.inl ⟨[], rfl⟩
  | cons target rest ih =>
      have hpath := (hin target (by simp)).1
      have hlook : Session.outcome (existingBytes? target.path) t = .ok none := by
        rw [Session.outcome, existingBytes?_apply, locate, hpath,
          if_pos (by rw [Path.hasNull_child, hout, Bool.true_or])]
      have hwrite : (Storage.writeWithin target.path (Text.Utf8.encode target.content) :
          Session Unit) t = .error .nullCharacter t := by
        rw [hpath, writeWithin_child, Storage.makeDirectories_of_null hout]
      have hrest := ih fun other hother => hin other (by simp [hother])
      rw [bringAllUpToDate_cons, bringUpToDate_apply, writeIfChanged_apply, hlook]
      cases mode with
      | write => exact Or.inr (by simp [hwrite])
      | _ => rcases hrest with ⟨outcomes, hrun⟩ | hrun <;> simp [hrun]

/-- With a null character in the output directory no run gets past the
solution. -/
theorem sync_of_null {scan : LibraryScan base}
    (hscan : Session.outcome (scanLibraries base request.installRoot request.layout) t =
      .ok scan) (hout : request.outputDir.hasNull = true) :
    (sync base request entries : Session SyncRun) t = .error .nullCharacter t := by
  have hin : ∀ target ∈ projectTargets request.outputDir request.options scan.libraries
      (Snapshot.ofEntries entries).units, target.LiesIn request.outputDir := by
    intro target htarget
    exact liesIn_runTargets request scan.libraries (Snapshot.ofEntries entries).units target
      (List.mem_append_left _ htarget)
  rw [sync_of_scan_ok hscan]
  rcases bringAllUpToDate_of_null_directory request.mode hin hout with ⟨projects, hrun⟩ | hrun
  · rw [hrun]
    simp [hout]
  · rw [hrun]

/-- A run that returns has scanned, and has gone through all its
targets. -/
theorem sync_eq_ok {run : SyncRun} {t' : FileTree}
    (hrun : (sync base request entries : Session SyncRun) t = .ok run t') :
    ∃ scan outcomes,
      Session.outcome (scanLibraries base request.installRoot request.layout) t = .ok scan ∧
      request.outputDir.hasNull = false ∧
      (bringAllUpToDate request.mode (runTargets request scan.libraries
        (Snapshot.ofEntries entries).units) : Session (List Outcome)) t = .ok outcomes t' ∧
      run = .ofOutcomes (Snapshot.ofEntries entries) scan outcomes := by
  cases hscan : Session.outcome (scanLibraries base request.installRoot request.layout) t with
  | error fault =>
      rw [sync_of_scan_error hscan] at hrun
      cases hrun
  | ok scan =>
      cases hout : request.outputDir.hasNull with
      | true =>
          rw [sync_of_null hscan hout] at hrun
          cases hrun
      | false =>
          rw [sync_of_scan hscan hout] at hrun
          split at hrun
          · rename_i outcomes t'' hall
            cases hrun
            exact ⟨scan, outcomes, rfl, rfl, hall, rfl⟩
          · cases hrun

end

/-! ### When a run returns -/

section

variable {base : Location} {request : SyncRequest} {entries : List Snapshot.Entry}
  {t : FileTree} {scan : LibraryScan base}

/-- A run that has scanned returns if no name in it has a null character,
or if there is no output directory to look for the names in. -/
theorem exists_sync_iff (hmode : request.mode = .write)
    (hscan : Session.outcome (scanLibraries base request.installRoot request.layout) t =
      .ok scan) :
    (∃ run t', (sync base request entries : Session SyncRun) t = .ok run t') ↔
      request.outputDir.hasNull = false ∧
      (((∀ u ∈ (Snapshot.ofEntries entries).units, u.name.toList.contains '\x00' = false) ∧
        (solutionFileName (request.outputDir.locate base)).toList.contains '\x00' = false) ∨
      ¬ ∃ t₁, Makes request.outputDir t t₁) := by
  cases hout : request.outputDir.hasNull with
  | true =>
      rw [sync_of_null hscan hout]
      simp
  | false =>
      have hin := liesIn_runTargets request scan.libraries (Snapshot.ofEntries entries).units
      have hiff := exists_bringAllUpToDate_iff (t := t) hin hout
      rw [forall_hasNullName_runTargets] at hiff
      rw [← hiff, sync_of_scan hscan hout, hmode]
      -- Only the list of outcomes is dressed differently.
      cases (bringAllUpToDate .write (runTargets request scan.libraries
          (Snapshot.ofEntries entries).units) : Session (List Outcome)) t <;> simp

/-- A run returns if its output directory is there or can be made and no name
has a null character, and it fails at those of its files that the directory
does not take. -/
theorem exists_sync_of_makes {t₁ : FileTree} {d : Location} (hmode : request.mode = .write)
    (hscan : Session.outcome (scanLibraries base request.installRoot request.layout) t =
      .ok scan)
    (hmakes : Makes request.outputDir t t₁)
    (hd : t₁.locate request.outputDir = .ok (.node d .directory))
    (hnull : ∀ target ∈ runTargets request scan.libraries (Snapshot.ofEntries entries).units,
      target.hasNullName = false) :
    ∃ run t', (sync base request entries : Session SyncRun) t = .ok run t' ∧
      run.result.failures.map (·.path) =
        ((runTargets request scan.libraries (Snapshot.ofEntries entries).units).filter
          fun target => ¬ Writable t₁ request.outputDir d target.fileName).map (·.path) := by
  have hout : request.outputDir.hasNull = false := (locate_eq_ok_iff.mp hd).1
  obtain ⟨outcomes, t', hrun, hall, _⟩ := bringAllUpToDate_of_makes
    (liesIn_runTargets request scan.libraries _) hnull hmakes hd
  refine ⟨.ofOutcomes (Snapshot.ofEntries entries) scan outcomes, t', ?_, hall.failure_paths⟩
  rw [sync_of_scan hscan hout, hmode, hrun]

/-- Nothing but a null character ends a run that has scanned. -/
theorem sync_error {fault : Fault} {t' : FileTree} (hmode : request.mode = .write)
    (hscan : Session.outcome (scanLibraries base request.installRoot request.layout) t =
      .ok scan)
    (hrun : (sync base request entries : Session SyncRun) t = .error fault t') :
    fault = .nullCharacter := by
  cases hout : request.outputDir.hasNull with
  | true =>
      rw [sync_of_null hscan hout] at hrun
      cases hrun
      rfl
  | false =>
      rw [sync_of_scan hscan hout, hmode] at hrun
      split at hrun
      · cases hrun
      · rename_i fault' t'' hall
        cases hrun
        exact bringAllUpToDate_error (liesIn_runTargets request scan.libraries _) hout hall

end

/-! ### A small setting -/

/-- A request to write into `/out`, for an installation at `/lib`. -/
def smallRequest : SyncRequest where
  installRoot := ⟨.slash, ["lib"]⟩
  outputDir := ⟨.slash, ["out"]⟩

/-- A tree with the directory `/out` and more. -/
def smallTree (more : List (Location × Node)) : FileTree := ⟨[], (["out"], .directory) :: more⟩

/-- Where no installation is, the scan finds nothing and says which directory
is missing. The small runs of this development all start from here. -/
theorem scan_smallRequest {t : FileTree} (h : t.node? ["lib"] = none) :
    Session.outcome (scanLibraries [] smallRequest.installRoot smallRequest.layout) t =
      .ok (.missing (smallRequest.layout.managed smallRequest.installRoot)) := by
  apply scanLibraries_of_missing
  have hmanaged : smallRequest.layout.managed smallRequest.installRoot =
      ⟨.slash, ["lib", "Managed"]⟩ := by
    decide
  have hfound : t.locate ⟨.slash, ["lib", "Managed"]⟩ =
      .error (.file ⟨.notFound, "/lib/Managed"⟩) := by
    have hwalk : t.follow [] ["lib", "Managed"] = .error .notFound := by
      have hbelow : t.follow ["lib"] ["Managed"] = .error .notFound := by
        rw [follow, h]
      rw [follow, node?_nil]
      dsimp only
      rw [if_neg (by decide), if_neg (by decide), if_neg (by simp)]
      exact hbelow
    rw [locate, if_neg (by decide), find, if_neg (by decide), if_pos (by decide), hwalk]
    rfl
  rw [hmanaged, kind?, hfound]

/-- The output directory is there. -/
theorem locate_smallTree (more : List (Location × Node)) :
    (smallTree more).locate smallRequest.outputDir = .ok (.node ["out"] .directory) := by
  rfl

end IdeProjects
