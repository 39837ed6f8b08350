import IdeProjects.Proofs.Descriptor.Links
import IdeProjects.Proofs.Sync.Isolation
import IdeProjects.Proofs.Sync.PostState
import IdeProjects.Proofs.Sync.Repeat

/-!
# `IdeProjects.Proofs.Sync.Links`: the files of a run fit together

A project file that refers to another unit names that unit's file and its
identifier, and the solution lists both. The three are written one by one
and each from its own unit, so what holds them together is that they all
follow from the name: the file of a name holds the text of its last unit
(`hasText_project`), whose identifier is that of the name, and the solution
has an entry for each name (`hasText_solution`).

A reference to a name that no unit of the run has is written all the same.
It creates nothing: the bytes that a run changes are those of its own files
(`bytes?_after_writes`).
-/

set_option autoImplicit false

namespace IdeProjects

open FileTree

/-! ### What a run changes -/

/-- Where something can be read, there is a regular file. -/
theorem kind?_of_read {t : FileTree} {p : Path} {bytes : List UInt8}
    (h : t.read p = .ok bytes) : t.kind? p = .ok (some .file) := by
  rw [FileTree.read] at h
  rw [FileTree.kind?]
  split at h
  · rename_i heq
    rw [heq]
  · cases h
  · cases h
  · cases h

section

variable {out : Path} {targets : List Target} {outcomes : List Outcome} {t t' : FileTree}
  {d : Location}

/-- A run over targets changes no bytes but those of the targets. Directories
that are made have none, and in a directory that cannot be made nothing is
written. -/
theorem bytes?_after_writes (hin : ∀ target ∈ targets, target.LiesIn out)
    (hout : out.hasNull = false)
    (hrun : (bringAllUpToDate .write targets : Session (List Outcome)) t = .ok outcomes t')
    (hd : t'.locate out = .ok (.node d .directory)) {place : Location}
    (hplace : ∀ target ∈ targets, place ≠ d ++ [target.fileName]) :
    t'.bytes? place = t.bytes? place := by
  rcases bringAllUpToDate_eq_ok hin hout hrun with
    ⟨t₁, d₁, hmakes, hd₁, _, _, htree⟩ | ⟨fault, t₁, hblocked, _, htree⟩
  · -- The directory lies in the end where it lay when it was made.
    have hsame : d₁ = d := by
      have hthere : t'.locate out = .ok (.node d₁ .directory) := by
        rcases htree with rfl | ⟨rfl, _⟩
        · exact locate_settleAll targets hd₁
        · rw [← hmakes.eq_of_directory hd]
          exact hd₁
      rw [hd] at hthere
      cases hthere
      rfl
    subst hsame
    rw [bytes?_settleAll hmakes htree,
      bytes?_congr (node?_settleAll_of_ne fun target htarget _ => hplace target htarget),
      ← Storage.bytes?_after_makeDirectories out t, Session.after, hmakes.run]
  · have hbytes := Storage.bytes?_after_makeDirectories out t place
    rw [Session.after, hblocked] at hbytes
    rcases htree with rfl | rfl
    · exact hbytes
    · rfl

end

/-! ### Files of names -/

/-- At a path there is a regular file with a text. -/
structure HasText (t : FileTree) (path : Path) (text : String) : Prop where
  file : t.kind? path = .ok (some .file)
  bytes : t.read path = .ok (Text.Utf8.encode text)

/-- Where a text can be read, there is a regular file with it. -/
theorem hasText_of_read {t : FileTree} {path : Path} {text : String}
    (h : t.read path = .ok (Text.Utf8.encode text)) : HasText t path text :=
  ⟨kind?_of_read h, h⟩

section

variable {base : Location} {request : SyncRequest} {libraries : List (LibraryReference base)}
  {units : List CompilationUnit} {outcomes : List Outcome} {t t' : FileTree}

/-- The file of a name has the text of the last unit of the name. -/
theorem hasText_project (hout : request.outputDir.hasNull = false)
    (hrun : (bringAllUpToDate .write (runTargets request libraries units) :
      Session (List Outcome)) t = .ok outcomes t')
    (hnone : outcomes.filterMap Outcome.failure? = []) {u : CompilationUnit}
    (hu : lastNamed? u.name units = some u) :
    HasText t' (request.outputDir.child (projectFileName u.name))
      ((u.resolve libraries).projectText request.options) := by
  obtain ⟨before, after, hsplit, _, hlast⟩ := exists_last hu
  exact hasText_of_read (read_after_writes (runTargets_split request libraries hsplit)
    (fun other hother => fileName_of_later (by simpa using hlast) hother)
    (liesIn_runTargets request libraries units) hout hrun (by simp [hnone]))

/-- The solution file has the text of the solution. -/
theorem hasText_solution (hout : request.outputDir.hasNull = false)
    (hrun : (bringAllUpToDate .write (runTargets request libraries units) :
      Session (List Outcome)) t = .ok outcomes t')
    (hnone : outcomes.filterMap Outcome.failure? = []) :
    HasText t' (request.outputDir.child (solutionFileName (request.outputDir.locate base)))
      (solutionText (units.map (·.name))) := by
  have hsplit : runTargets request libraries units =
      projectTargets request.outputDir request.options libraries units ++
        solutionTargetIn base request.outputDir units :: [] := rfl
  exact hasText_of_read (read_after_writes hsplit (by simp)
    (liesIn_runTargets request libraries units) hout hrun (by simp [hnone]))

end

/-! ### Links -/

/-- In a tree the unit `n` is where references to it lead: its file has the
identifier `guid`, and so has its entry in the solution. -/
structure Resolves (base : Location) (request : SyncRequest) (t : FileTree) (n guid : String) :
    Prop where
  file : ∃ text e, HasText t (request.outputDir.child (n ++ ".csproj")) text ∧
    Markup.read? text = some e ∧ e.named "ProjectGuid" = [.leaf "ProjectGuid" [] guid]
  entry : ∃ text,
    HasText t (request.outputDir.child (solutionFileName (request.outputDir.locate base))) text ∧
    Text.HasStretch text (Solution.entryText n guid)

/-- The references between the files that a run has left. -/
structure LinksResolve (base : Location) (request : SyncRequest) (units : List CompilationUnit)
    (t t' : FileTree) : Prop where
  /-- The file of a name has one reference for each name that its last unit
  refers to, and if that is the name of a unit, the reference resolves. -/
  references : ∀ v, lastNamed? v.name units = some v →
    ∃ text e, HasText t' (request.outputDir.child (v.name ++ ".csproj")) text ∧
      Markup.read? text = some e ∧
      ∀ n ∈ v.projectReferences, ∃ guid, Project.RefersOnce e (n ++ ".csproj") guid ∧
        Text.HasStretch text (Project.referenceText n guid) ∧
        (n ∈ units.map (·.name) → Resolves base request t' n guid)
  /-- In the output directory the run has changed its own files, and so no
  file of a name that no unit has. -/
  files : ∃ d, t'.locate request.outputDir = .ok (.node d .directory) ∧
    (∀ place, (∀ u ∈ units, place ≠ d ++ [u.name ++ ".csproj"]) →
      place ≠ d ++ [solutionFileName (request.outputDir.locate base)] →
      t'.bytes? place = t.bytes? place) ∧
    ∀ n, n ∉ units.map (·.name) →
      t'.bytes? (d ++ [n ++ ".csproj"]) = t.bytes? (d ++ [n ++ ".csproj"])

/-- After a run without failures in the mode `write` all references to kept
units resolve, and the others have created nothing. -/
theorem sync_linksResolve {base : Location} {request : SyncRequest}
    {entries : List Snapshot.Entry} {t t' : FileTree} {run : SyncRun}
    (hmode : request.mode = .write)
    (hrun : (sync base request entries : Session SyncRun) t = .ok run t')
    (hok : run.result.failures = []) :
    LinksResolve base request (Snapshot.ofEntries entries).units t t' := by
  obtain ⟨scan, outcomes, hscan, hout, hall, rfl⟩ := sync_eq_ok hrun
  rw [hmode] at hall
  have hin := liesIn_runTargets request scan.libraries (Snapshot.ofEntries entries).units
  constructor
  case references =>
    intro v hv
    refine ⟨_, _, hasText_project hout hall hok hv, Project.read?_projectText _ _,
      fun n hn => ⟨Guid.braced n, ?_, ?_, fun hname => ?_⟩⟩
    · exact Project.refersOnce_element v scan.libraries request.options hn
    · exact Project.hasStretch_projectText v scan.libraries request.options hn
    · -- The file of `n` is that of the last unit of the name.
      obtain ⟨before, u, after, hsplit, rfl, _, hu⟩ := lastNamed?_of_mem hname
      have hne : u.name ≠ "" := Snapshot.name_ne_empty_of_mem_units (by rw [hsplit]; simp)
      exact ⟨⟨_, _, hasText_project hout hall hok hu, Project.read?_projectText _ _,
          Project.named_projectGuid _ _⟩,
        ⟨_, hasText_solution hout hall hok, Solution.hasStretch_solutionText hname hne⟩⟩
  case files =>
    obtain ⟨d, t₁, htakes, htree⟩ := takesAll_of_sync hmode hscan hrun (by simp [SyncResult.ok, hok])
    have hd : t'.locate request.outputDir = .ok (.node d .directory) :=
      htree ▸ locate_settleAll _ htakes.locate
    have hothers : ∀ place, (∀ u ∈ (Snapshot.ofEntries entries).units,
        place ≠ d ++ [u.name ++ ".csproj"]) →
        place ≠ d ++ [solutionFileName (request.outputDir.locate base)] →
        t'.bytes? place = t.bytes? place := by
      intro place hunits hsolution
      refine bytes?_after_writes hin hout hall hd fun target htarget => ?_
      rcases mem_runTargets.mp htarget with ⟨u, hu, rfl⟩ | rfl
      · rw [Target.fileName, Path.name_child]
        exact hunits u hu
      · rw [Target.fileName, solutionTargetIn, Path.name_child]
        exact hsolution
    refine ⟨d, hd, hothers, fun n hn => hothers _ (fun u hu heq => hn ?_) fun heq => ?_⟩
    · have hname : n = u.name := by simpa using heq
      exact hname ▸ List.mem_map_of_mem hu
    · have hfile : n ++ ".csproj" = solutionFileName (request.outputDir.locate base) := by
        simpa using heq
      exact projectFileName_ne_solutionFileName n _ hfile

/-- `App` refers to `Lib`, which is given twice, and to a unit that is not
there, and both references are repeated. -/
theorem sync_linksResolve_repeated_references :
    let app : CompilationUnit :=
      { name := "App", projectReferences := ["Lib", "Gone", "Lib", "Gone"] }
    let entries : List Snapshot.Entry := [.unit { name := "Lib", projectReferences := ["App"] },
      .unit app, .unit { name := "Lib" }]
    ∃ run t', (sync [] smallRequest entries : Session SyncRun) (smallTree []) = .ok run t' ∧
      run.result.failures = [] ∧ lastNamed? "App" (Snapshot.ofEntries entries).units = some app ∧
      LinksResolve [] smallRequest (Snapshot.ofEntries entries).units (smallTree []) t' := by
  intro app entries
  have hscan := scan_smallRequest (show (smallTree []).node? ["lib"] = none from rfl)
  have htakes := takesAll_smallTree entries (by decide)
  obtain ⟨run, t', hrun, hok⟩ := exists_sync_of_takesAll rfl hscan htakes
  have hnone : run.result.failures = [] := by simpa [SyncResult.ok] using hok
  exact ⟨run, t', hrun, hnone, by decide, sync_linksResolve rfl hrun hnone⟩

end IdeProjects
