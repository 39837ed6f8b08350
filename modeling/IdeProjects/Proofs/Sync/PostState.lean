import IdeProjects.Proofs.Sync.Run

/-!
# `IdeProjects.Proofs.Sync.PostState`: the tree after a run

A run in the mode `write` into a directory that is named from the root,
without `..`. `Regenerated` says what it has left when it returns: the
project file of every unit name and the solution hold their texts, the
last unit of a name being the one that counts, unless the write failed;
and nothing else has changed but for the directories on the way.

The second half is `node?_after_writes`, which sorts all places of the
tree into three kinds: a file that is reported, a place that is as it
was, and a new directory on the way. It holds for any list of targets.
The first half follows the last target of a name through the list.
-/

set_option autoImplicit false

namespace IdeProjects

open FileTree

/-! ### All places of the tree -/

section

variable {out : Path} {targets : List Target} {outcomes : List Outcome} {t t' : FileTree}

/-- After a run over targets a place holds a file that is reported, or
what it held before, or a new directory on the way to `out`. -/
theorem node?_after_writes (habs : out.isAbsolute = true) (hdots : ".." ∉ out.parts)
    (hin : ∀ target ∈ targets, target.LiesIn out) (hout : out.hasNull = false)
    (hrun : (bringAllUpToDate .write targets : Session (List Outcome)) t = .ok outcomes t')
    (place : Location) :
    (∃ f ∈ outcomes.filterMap Outcome.file?, place = f.path.parts ∧
      t.node? place ≠ some .directory ∧ ∃ bytes, t'.node? place = some (.file bytes)) ∨
    t'.node? place = t.node? place ∨
    (t.node? place = none ∧ t'.node? place = some .directory ∧ place <+: out.parts) := by
  -- The directories that were made, whether all of them or some.
  have hgrown := Storage.after_makeDirectories_down habs hdots t
  rw [Session.after] at hgrown
  rcases bringAllUpToDate_eq_ok hin hout hrun with
    ⟨t₁, d, hmakes, hd, _, hall, htree⟩ | ⟨fault, t₁, hblocked, _, htree⟩
  · rw [hmakes.run] at hgrown
    dsimp only at hgrown
    have hplace : d = out.parts := by
      rcases locate_down habs hdots hd with heq | ⟨x, heq⟩
      · cases heq
      · cases heq
        rfl
    rcases htree with rfl | ⟨rfl, _⟩
    · by_cases hwritten : ∃ target ∈ targets, Writable t₁ out d target.fileName ∧
          place = d ++ [target.fileName]
      · -- The place of a target that was written.
        obtain ⟨target, htarget, hw, rfl⟩ := hwritten
        obtain ⟨f, hf, hpath⟩ := hall.file_of_target htarget hw
        obtain ⟨last, _, _, hleft⟩ := node?_settleAll_of_mem htarget hw
        refine Or.inl ⟨f, hf, ?_, ?_, _, hleft⟩
        · rw [hpath, (hin target htarget).1, Path.parts_child, hplace]
        · exact fun hdir => hw.2 (hgrown.node?_eq hdir)
      · -- Only the way to the directory matters here.
        right
        rw [node?_settleAll_of_ne fun target htarget hw heq =>
          hwritten ⟨target, htarget, hw, heq⟩]
        exact hgrown.node? place
    · exact Or.inr (Or.inl rfl)
  · rw [hblocked] at hgrown
    right
    rcases htree with rfl | rfl
    · exact hgrown.node? place
    · exact Or.inl rfl

/-- A file that is reported as failed is none of the files that are
reported as done. -/
theorem failure_path_ne_file_path {f : FileStatus} {failure : WriteFailure}
    (hin : ∀ target ∈ targets, target.LiesIn out) (hout : out.hasNull = false)
    (hrun : (bringAllUpToDate .write targets : Session (List Outcome)) t = .ok outcomes t')
    (hf : f ∈ outcomes.filterMap Outcome.file?)
    (hfailure : failure ∈ outcomes.filterMap Outcome.failure?) :
    failure.path ≠ f.path := by
  rcases bringAllUpToDate_eq_ok hin hout hrun with
    ⟨t₁, d, _, _, _, hall, _⟩ | ⟨_, _, _, hall, _⟩
  · obtain ⟨target, htarget, hpath, hw⟩ := hall.target_of_file hf
    obtain ⟨other, hother, hpath', hnot⟩ := hall.target_of_failure hfailure
    intro heq
    have hname : other.fileName = target.fileName := by
      rw [Target.fileName, Target.fileName, ← hpath', ← hpath, heq]
    exact hnot (hname ▸ hw)
  · obtain ⟨_, _, _, hno⟩ := hall.target_of_file hf
    exact hno.elim

/-- A path that is reported, as done or as failed, is that of a target. Hence
everything reported lies in the output directory. -/
theorem target_of_reported {path : Path} (hin : ∀ target ∈ targets, target.LiesIn out)
    (hout : out.hasNull = false)
    (hrun : (bringAllUpToDate .write targets : Session (List Outcome)) t = .ok outcomes t')
    (hpath : path ∈ (outcomes.filterMap Outcome.file?).map (·.path) ++
      (outcomes.filterMap Outcome.failure?).map (·.path)) :
    ∃ target ∈ targets, path = target.path := by
  have hsome : ∃ done : Target → Prop, Accounts done targets outcomes := by
    rcases bringAllUpToDate_eq_ok hin hout hrun with ⟨_, _, _, _, _, hall, _⟩ | ⟨_, _, _, hall, _⟩
    · exact ⟨_, hall⟩
    · exact ⟨_, hall⟩
  obtain ⟨done, hall⟩ := hsome
  rcases List.mem_append.mp hpath with hfile | hfailure
  · obtain ⟨f, hf, rfl⟩ := List.mem_map.mp hfile
    obtain ⟨target, htarget, heq, _⟩ := hall.target_of_file hf
    exact ⟨target, htarget, heq⟩
  · obtain ⟨f, hf, rfl⟩ := List.mem_map.mp hfailure
    obtain ⟨target, htarget, heq, _⟩ := hall.target_of_failure hf
    exact ⟨target, htarget, heq⟩

/-- A path that is reported is that of an entry of `out`. -/
theorem child_of_reported {path : Path} (hin : ∀ target ∈ targets, target.LiesIn out)
    (hout : out.hasNull = false)
    (hrun : (bringAllUpToDate .write targets : Session (List Outcome)) t = .ok outcomes t')
    (hpath : path ∈ (outcomes.filterMap Outcome.file?).map (·.path) ++
      (outcomes.filterMap Outcome.failure?).map (·.path)) :
    ∃ n, path = out.child n := by
  obtain ⟨target, htarget, rfl⟩ := target_of_reported hin hout hrun hpath
  exact ⟨target.fileName, (hin target htarget).1⟩

/-- A place whose write failed is as it was: no other target has its path, and
directories are only made above the files. -/
theorem node?_of_failure (habs : out.isAbsolute = true) (hdots : ".." ∉ out.parts)
    (hin : ∀ target ∈ targets, target.LiesIn out) (hout : out.hasNull = false)
    (hrun : (bringAllUpToDate .write targets : Session (List Outcome)) t = .ok outcomes t')
    {failure : WriteFailure} (hfailure : failure ∈ outcomes.filterMap Outcome.failure?) :
    t'.node? failure.path.parts = t.node? failure.path.parts := by
  obtain ⟨n, hn⟩ := child_of_reported hin hout hrun
    (List.mem_append_right _ (List.mem_map_of_mem hfailure))
  rcases node?_after_writes habs hdots hin hout hrun failure.path.parts with
    ⟨f, hf, heq, _⟩ | hsame | ⟨_, _, hprefix⟩
  · -- Two entries of one directory at one place have one path.
    obtain ⟨m, hm⟩ := child_of_reported hin hout hrun
      (List.mem_append_left _ (List.mem_map_of_mem hf))
    refine absurd ?_ (failure_path_ne_file_path hin hout hrun hf hfailure)
    rw [hn, hm] at heq ⊢
    simpa [Path.child] using heq
  · exact hsame
  · -- An entry lies below the directories on the way.
    have hlen := hprefix.length_le
    rw [hn, Path.parts_child, List.length_append, List.length_singleton] at hlen
    omega

/-- The last target of a name whose write has not failed has left its
text. -/
theorem read_after_writes {before after : List Target} {target : Target}
    (hsplit : targets = before ++ target :: after)
    (hlast : ∀ other ∈ after, other.fileName ≠ target.fileName)
    (hin : ∀ target ∈ targets, target.LiesIn out) (hout : out.hasNull = false)
    (hrun : (bringAllUpToDate .write targets : Session (List Outcome)) t = .ok outcomes t')
    (hworked : ∀ failure ∈ outcomes.filterMap Outcome.failure?, failure.path ≠ target.path) :
    t'.read target.path = .ok (Text.Utf8.encode target.content) := by
  have htarget : target ∈ targets := by simp [hsplit]
  rcases bringAllUpToDate_eq_ok hin hout hrun with
    ⟨t₁, d, _, hd, hnull, hall, htree⟩ | ⟨_, _, _, hall, _⟩
  · have hw : Writable t₁ out d target.fileName := by
      by_contra hno
      obtain ⟨failure, hfailure, hpath⟩ := hall.failure_of_target htarget hno
      exact hworked failure hfailure hpath
    rcases htree with rfl | ⟨_, hnone⟩
    · rw [hsplit]
      exact read_settleAll_last (hin target htarget) (hnull target htarget) hd hlast hw
    · exact absurd hw (hnone target htarget)
  · obtain ⟨failure, hfailure, hpath⟩ := hall.failure_of_target htarget id
    exact absurd hpath (hworked failure hfailure)

end

/-! ### The files of a run -/

/-- What a run that returns has left. The units are the kept ones, the
libraries those scanned before the first write. -/
structure Regenerated {base : Location} (request : SyncRequest) (units : List CompilationUnit)
    (libraries : List (LibraryReference base)) (result : SyncResult) (t t' : FileTree) :
    Prop where
  /-- The project file of a name holds the text of its last unit. -/
  project : ∀ n ∈ units.map (·.name),
    (∀ f ∈ result.failures, f.path ≠ request.outputDir.child (projectFileName n)) →
    ∃ u, lastNamed? n units = some u ∧
      t'.read (request.outputDir.child (projectFileName n)) =
        .ok (Text.Utf8.encode ((u.resolve libraries).projectText request.options))
  /-- The solution file holds the text of the solution. -/
  solution :
    let path := request.outputDir.child (solutionFileName (request.outputDir.locate base))
    (∀ f ∈ result.failures, f.path ≠ path) →
      t'.read path = .ok (Text.Utf8.encode (solutionText (units.map (·.name))))
  /-- The solution file is named after the output directory. -/
  solutionName : (∀ part ∈ request.outputDir.parts, part ≠ "" ∧ part ≠ ".") →
    solutionFileName (request.outputDir.locate base) = request.outputDir.name ++ ".sln"
  /-- The file of a unit is an entry of the output directory, however
  its name is written. -/
  direct : ∀ u ∈ units,
    request.outputDir.join (Path.ofText (projectFileName u.name)) =
      request.outputDir.child (projectFileName u.name)
  /-- Nothing is reported but the files of units and the solution. -/
  reported : ∀ path ∈ result.files.map (·.path) ++ result.failures.map (·.path),
    (∃ u ∈ units, path = request.outputDir.child (projectFileName u.name)) ∨
      path = request.outputDir.child (solutionFileName (request.outputDir.locate base))
  /-- Other files are as they were. -/
  otherFiles : ∀ place, (∀ f ∈ result.files, place ≠ f.path.parts) →
    t'.bytes? place = t.bytes? place
  /-- Files whose write failed are as they were. -/
  failedFiles : ∀ f ∈ result.failures, t'.bytes? f.path.parts = t.bytes? f.path.parts
  /-- No file is gone. -/
  filesStay : ∀ place, (t.bytes? place).isSome → (t'.bytes? place).isSome
  /-- No directory is gone. -/
  directoriesStay : ∀ place, t.node? place = some .directory → t'.node? place = some .directory
  /-- New directories are the output directory and those above it. -/
  newDirectories : ∀ place, t'.node? place = some .directory →
    t.node? place = some .directory ∨
      (t.node? place = none ∧ place <+: request.outputDir.parts)
  /-- Whatever has changed is on the way to the output directory or is
  an entry of it. -/
  inside : ∀ place, t'.node? place ≠ t.node? place →
    place <+: request.outputDir.parts ∨ ∃ n, place = request.outputDir.parts ++ [n]

section

variable {base : Location} {request : SyncRequest} {entries : List Snapshot.Entry}
  {t t' : FileTree} {run : SyncRun}

/-- A run in the mode `write` that returns has left the files of all its
units, and nothing else has changed. -/
theorem sync_regenerates (hmode : request.mode = .write)
    (habs : request.outputDir.isAbsolute = true) (hdots : ".." ∉ request.outputDir.parts)
    (hrun : (sync base request entries : Session SyncRun) t = .ok run t') :
    ∃ scan : LibraryScan base,
      Session.outcome (scanLibraries base request.installRoot request.layout) t = .ok scan ∧
      Regenerated request (Snapshot.ofEntries entries).units scan.libraries run.result t t' := by
  obtain ⟨scan, outcomes, hscan, hout, hall, rfl⟩ := sync_eq_ok hrun
  rw [hmode] at hall
  -- All that is said about places is read off the three kinds of them.
  have hin := liesIn_runTargets request scan.libraries (Snapshot.ofEntries entries).units
  have hplaces := node?_after_writes habs hdots hin hout hall
  refine ⟨scan, hscan, ?_⟩
  constructor
  case project =>
    intro n hn hworked
    obtain ⟨before, u, after, hsplit, rfl, hlast, hu⟩ := lastNamed?_of_mem hn
    refine ⟨u, hu, ?_⟩
    refine read_after_writes (runTargets_split request scan.libraries hsplit) ?_ hin hout hall
      hworked
    exact fun other hother => fileName_of_later hlast hother
  case solution =>
    intro path hworked
    have hsplit : runTargets request scan.libraries (Snapshot.ofEntries entries).units =
        projectTargets request.outputDir request.options scan.libraries
          (Snapshot.ofEntries entries).units ++
        solutionTargetIn base request.outputDir (Snapshot.ofEntries entries).units :: [] := rfl
    exact read_after_writes hsplit (by simp) hin hout hall hworked
  case solutionName =>
    intro hnames
    rw [solutionFileName, Path.name, Path.locate_of_names habs]
    exact fun part hpart => ⟨fun heq => hdots (heq ▸ hpart), hnames part hpart⟩
  case direct =>
    exact fun u hu => join_projectFileName (Snapshot.not_mem_slash_of_mem_units hu) _
  case reported =>
    intro path hpath
    obtain ⟨target, htarget, rfl⟩ := target_of_reported hin hout hall hpath
    rcases mem_runTargets.mp htarget with ⟨u, hu, rfl⟩ | rfl
    · exact Or.inl ⟨u, hu, rfl⟩
    · exact Or.inr rfl
  case otherFiles =>
    intro place hother
    rcases hplaces place with ⟨f, hf, heq, _⟩ | hsame | ⟨hnone, hdir, _⟩
    · exact absurd heq (hother f hf)
    · exact bytes?_congr hsame
    · rw [bytes?, bytes?, hnone, hdir]
  case failedFiles => exact fun f hf => bytes?_congr (node?_of_failure habs hdots hin hout hall hf)
  case filesStay =>
    intro place hsome
    rcases hplaces place with ⟨_, _, _, _, bytes, hfile⟩ | hsame | ⟨hnone, _, _⟩
    · rw [bytes?, hfile]
      rfl
    · rw [bytes?_congr hsame]
      exact hsome
    · rw [bytes?, hnone] at hsome
      cases hsome
  case directoriesStay =>
    intro place hdir
    rcases hplaces place with ⟨_, _, _, hnot, _⟩ | hsame | ⟨hnone, _, _⟩
    · exact absurd hdir hnot
    · rw [hsame, hdir]
    · rw [hnone] at hdir
      cases hdir
  case newDirectories =>
    intro place hdir
    rcases hplaces place with ⟨_, _, _, _, _, hfile⟩ | hsame | ⟨hnone, _, hprefix⟩
    · rw [hfile] at hdir
      cases hdir
    · exact Or.inl (hsame ▸ hdir)
    · exact Or.inr ⟨hnone, hprefix⟩
  case inside =>
    intro place hchanged
    rcases hplaces place with ⟨f, hf, rfl, _⟩ | hsame | ⟨_, _, hprefix⟩
    · obtain ⟨n, hn⟩ := child_of_reported hin hout hall
        (List.mem_append_left _ (List.mem_map_of_mem hf))
      exact Or.inr ⟨n, by rw [hn, Path.parts_child]⟩
    · exact absurd hsame hchanged
    · exact Or.inl hprefix

end

/-- A name given twice, a name that is a path and an entry without a unit:
the run returns, no file fails, and the file of the name holds the text of
the unit that was given last. -/
theorem sync_regenerates_repeated_name :
    let last : CompilationUnit := { name := "A", defines := ["Y"] }
    let entries : List Snapshot.Entry := [.unit { name := "A", defines := ["X"] },
      .unit { name := "../up" }, .absent, .unit last]
    ∃ run t', (sync [] smallRequest entries : Session SyncRun) (smallTree []) = .ok run t' ∧
      run.result.failures = [] ∧
      t'.read ⟨.slash, ["out", "A.csproj"]⟩ = .ok (Text.Utf8.encode
        ((last.resolve ([] : List (LibraryReference []))).projectText smallRequest.options)) ∧
      ∃ scan : LibraryScan [],
        Session.outcome (scanLibraries [] smallRequest.installRoot smallRequest.layout)
          (smallTree []) = .ok scan ∧
        Regenerated smallRequest (Snapshot.ofEntries entries).units scan.libraries run.result
          (smallTree []) t' := by
  intro last entries
  have hscan := scan_smallRequest (show (smallTree []).node? ["lib"] = none from rfl)
  obtain ⟨run, t', hrun, hpaths⟩ := exists_sync_of_makes rfl hscan
    (Storage.makeDirectories_of_directory (locate_smallTree [])) (locate_smallTree [])
    (show ∀ target ∈ runTargets smallRequest _ (Snapshot.ofEntries entries).units, _ by decide)
  have hnone : run.result.failures = [] := List.map_eq_nil_iff.mp (hpaths.trans (by decide))
  obtain ⟨scan, hscan', hleft⟩ := sync_regenerates rfl (by decide) (by decide) hrun
  refine ⟨run, t', hrun, hnone, ?_, scan, hscan', hleft⟩
  -- The scan found nothing, and the last unit of the name is the one that counts.
  rw [hscan, Except.ok.injEq] at hscan'
  subst hscan'
  obtain ⟨u, hu, hread⟩ := hleft.project "A" (by decide) (by simp [hnone])
  have hlast : lastNamed? "A" (Snapshot.ofEntries entries).units = some last := by decide
  rw [hlast, Option.some.injEq] at hu
  exact hu ▸ hread

end IdeProjects
