import IdeProjects.CommandLine.Run
import IdeProjects.Proofs.Document
import IdeProjects.Proofs.Sync.Run
import IdeProjects.Proofs.Unit.Names
import Mathlib.Data.List.Nodup

/-!
# `IdeProjects.Proofs.CommandLine.Sync`: the result of the command `sync`

A run of `sync` reads its inputs, regenerates the files and has a result;
what it does after that only shows the result. `SyncInputs.Reach` says that
a run gets as far, `runSync_of_reach` is the rest of the run, and every run
that ends without a refusal has got there (`exists_reach`).

The result lists all units that were left out: first the items of the
document that state no unit, then the units with a blank name. The first are
recorded at their positions in the document, the second at their ranks among
the units that were read. So the record points at the document exactly if no
unit with a blank name stands behind an item that states no unit
(`skipped_positions_iff`).
-/

set_option autoImplicit false

namespace IdeProjects

open Session

/-! ### The inputs and the result -/

/-- What a run of `sync` has read before it looks for libraries. -/
structure SyncInputs where
  config : SyncConfig
  unitsPath : Path
  document : Json
  snapshot : Snapshot
  installRoot : Path
  outputDir : Path

namespace SyncInputs

/-- What the run is asked for then. -/
def request (i : SyncInputs) (a : SyncArguments) : SyncRequest where
  installRoot := i.installRoot
  outputDir := i.outputDir
  layout := i.config.layout
  options := i.config.project
  mode := .ofSwitches a.check a.dryRun (!a.noDiff)

/-- The inputs are those that the arguments lead to in a tree. -/
structure AreRead (i : SyncInputs) (base : Location) (a : SyncArguments) (t : FileTree) :
    Prop where
  config : outcome (loadConfig base a.config) t = .ok i.config
  unitsPath : ∃ text place, a.units = some text ∧
    Path.resolve base (Path.ofText text) = .ok place ∧ i.unitsPath = Path.ofLocation place
  document : outcome (Document.loadObject i.unitsPath) t = .ok i.document
  snapshot : Snapshot.ofJson i.document = .ok i.snapshot
  installRoot : ∃ root,
    SyncConfig.place? base i.unitsPath.parent (i.document.field? "install_root") = .ok root ∧
    chooseInstallRoot base a.installRoot (i.config.installRoot.map Path.ofLocation)
      (root.map Path.ofLocation) = .ok i.installRoot
  outputDir : chooseOutputDir base a.outputDir i.config.outputDir = .ok i.outputDir

/-- The run has read the inputs and regenerated the files. With the units
that were left out before, that is the run that it shows. -/
structure Reach (i : SyncInputs) (base : Location) (a : SyncArguments) (t : FileTree)
    (run : SyncRun) (t₁ : FileTree) : Prop where
  areRead : i.AreRead base a t
  synced : ∃ own : SyncRun,
    (sync base (i.request a) (i.snapshot.units.map .unit) : Session SyncRun) t = .ok own t₁ ∧
    run = own.skippedBefore i.snapshot.skipped

end SyncInputs

/-- What is left to do once a run has its result. -/
def showRun (base : Location) (a : SyncArguments) (snapshot : Snapshot) (run : SyncRun) :
    Session CommandOutput := do
  match a.reportJson with
  | some text =>
    let place ← MonadExcept.ofExcept (Path.resolve base (Path.ofText text))
    Document.write (Path.ofLocation place) run.result.report
  | none => pure ()
  return run.shown a.verbose a.check (shownLog a.verbose snapshot.warnings)

section

variable {base : Location} {a : SyncArguments} {t t₁ t' : FileTree} {i : SyncInputs}
  {run : SyncRun} {output : CommandOutput}

/-- Reading the configuration changes no file, whether one is named or not. -/
theorem readOnly_loadConfig (base : Location) (given : Option String) :
    ReadOnly (loadConfig base given : Session SyncConfig) := by
  cases given with
  | none => exact readOnly_pure _
  | some text => exact readOnly_load base _

/-- From its result on, a run shows the result. Each step before that reads
what the inputs say and leaves the tree as it is. -/
theorem runSync_of_reach (h : i.Reach base a t run t₁) :
    (runSync base a : Session CommandOutput) t = showRun base a i.snapshot run t₁ := by
  obtain ⟨hread, own, hsync, rfl⟩ := h
  obtain ⟨text, place, htext, hplace, hpath⟩ := hread.unitsPath
  obtain ⟨root, hroot, hchoose⟩ := hread.installRoot
  have hdocument := hread.document
  rw [hpath] at hroot hdocument
  rw [runSync, htext]
  dsimp only
  -- Each step reads what the inputs say and leaves the tree as it is, up to the sync.
  rw [bind_of_ok ((readOnly_loadConfig _ _).eq_ok_iff.mpr ⟨hread.config, rfl⟩),
    bind_of_ok (ofExcept_eq_ok.mpr ⟨hplace, rfl⟩),
    bind_of_ok ((readOnly_loadObject _).eq_ok_iff.mpr ⟨hdocument, rfl⟩),
    bind_of_ok (ofExcept_eq_ok.mpr ⟨hread.snapshot, rfl⟩),
    bind_of_ok (ofExcept_eq_ok.mpr ⟨hroot, rfl⟩), hchoose]
  show (runSyncWith base a i.config i.snapshot i.installRoot : Session CommandOutput) t = _
  rw [runSyncWith, bind_of_ok (ofExcept_eq_ok.mpr ⟨hread.outputDir, rfl⟩)]
  exact bind_of_ok hsync _

/-- A run that ends without a refusal has got as far as its result. Its steps
are taken apart one after the other, and what each of them has read is one
field of the inputs. -/
theorem exists_reach (hrun : (runSync base a : Session CommandOutput) t = .ok output t')
    (hresult : output.exitCode ≠ CommandOutput.refusedCode) :
    ∃ (i : SyncInputs) (run : SyncRun) (t₁ : FileTree), i.Reach base a t run t₁ ∧
      showRun base a i.snapshot run t₁ = .ok output t' := by
  obtain ⟨config, _, hstep, hrest⟩ := bind_eq_ok.mp hrun
  obtain ⟨hconfig, rfl⟩ := (readOnly_loadConfig _ _).eq_ok_iff.mp hstep
  cases htext : a.units with
  | none =>
      rw [htext] at hrest
      cases hrest
  | some text =>
      rw [htext] at hrest
      obtain ⟨place, _, hstep, hrest⟩ := bind_eq_ok.mp hrest
      obtain ⟨hplace, rfl⟩ := ofExcept_eq_ok.mp hstep
      obtain ⟨document, _, hstep, hrest⟩ := bind_eq_ok.mp hrest
      obtain ⟨hdocument, rfl⟩ := (readOnly_loadObject _).eq_ok_iff.mp hstep
      obtain ⟨snapshot, _, hstep, hrest⟩ := bind_eq_ok.mp hrest
      obtain ⟨hsnapshot, rfl⟩ := ofExcept_eq_ok.mp hstep
      obtain ⟨root, _, hstep, hrest⟩ := bind_eq_ok.mp hrest
      obtain ⟨hroot, rfl⟩ := ofExcept_eq_ok.mp hstep
      cases hchoose : chooseInstallRoot base a.installRoot
          (config.installRoot.map Path.ofLocation) (root.map Path.ofLocation) with
      | ok installRoot =>
          rw [hchoose] at hrest
          obtain ⟨outputDir, _, hstep, hrest⟩ := bind_eq_ok.mp hrest
          obtain ⟨houtput, rfl⟩ := ofExcept_eq_ok.mp hstep
          obtain ⟨own, t₁, hsync, hshow⟩ := bind_eq_ok.mp hrest
          exact ⟨⟨config, Path.ofLocation place, document, snapshot, installRoot, outputDir⟩, _,
            t₁, ⟨⟨hconfig, ⟨text, place, htext, hplace, rfl⟩, hdocument, hsnapshot,
              ⟨root, hroot, hchoose⟩, houtput⟩, own, hsync, rfl⟩, hshow⟩
      | error fault =>
          -- Without an install root the run ends with a refusal, or it passes the fault on.
          rw [hchoose] at hrest
          cases fault with
          | refusal r =>
              cases hrest
              exact absurd rfl hresult
          | _ => cases hrest

/-- A run that has shown its result has put it where the report belongs, if a
report was asked for. What it shows on its outputs does not depend on that. -/
theorem showRun_eq_ok {snapshot : Snapshot}
    (h : showRun base a snapshot run t₁ = .ok output t') :
    output = run.shown a.verbose a.check (shownLog a.verbose snapshot.warnings) ∧
    ∀ text place, a.reportJson = some text → Path.resolve base (Path.ofText text) = .ok place →
      t'.read (Path.ofLocation place) = .ok (Text.Utf8.encode run.result.report.document) := by
  unfold showRun at h
  cases htext : a.reportJson with
  | none =>
      rw [htext] at h
      cases h
      exact ⟨rfl, nofun⟩
  | some text =>
      rw [htext] at h
      obtain ⟨place, _, hfirst, hrest⟩ := bind_eq_ok.mp h
      obtain ⟨hplace, rfl⟩ := ofExcept_eq_ok.mp hfirst
      obtain ⟨_, t₂, hwrite, hshown⟩ := bind_eq_ok.mp hrest
      cases hshown
      refine ⟨rfl, fun text' place' htext' hplace' => ?_⟩
      obtain rfl : text = text' := Option.some.inj htext'
      obtain rfl : place = place' := Except.ok.inj (hplace.symm.trans hplace')
      exact (read_after_writeDocument hwrite).2

/-! ### The units that were left out -/

/-- The unit that an item states, if a run gives it a file. -/
def renderedUnit? (item : Json) : Option CompilationUnit :=
  (statedUnit? item).filter fun u => !Text.isBlank u.name

/-- The reason against an item that states a unit with a blank name. -/
def nameless? (item : Json) : Option String :=
  if (statedUnit? item).any (Text.isBlank ·.name) then some "unit has no name" else none

/-- No unit with a blank name stands behind an item that states no unit. -/
def NamelessFirst (items : List Json) : Prop :=
  items.Pairwise fun x y => statedUnit? x = none → (statedUnit? y).any (Text.isBlank ·.name) = false

instance (items : List Json) : Decidable (NamelessFirst items) :=
  inferInstanceAs (Decidable (List.Pairwise _ _))

/-- The files of the units and the solution have been brought up to date:
that is what the result says of files. -/
def Renders (base : Location) (request : SyncRequest) (units : List CompilationUnit)
    (t : FileTree) (result : SyncResult) (t₁ : FileTree) : Prop :=
  ∃ (scan : LibraryScan base) (outcomes : List Outcome),
    outcome (scanLibraries base request.installRoot request.layout) t = .ok scan ∧
    (bringAllUpToDate request.mode (runTargets request scan.libraries units) :
      Session (List Outcome)) t = .ok outcomes t₁ ∧
    result.files = outcomes.filterMap Outcome.file? ∧
    result.failures = outcomes.filterMap Outcome.failure?

/-- What the sieve of a run does with the units that items state: it drops
the blank names, and records them at their ranks. -/
theorem ofEntries_stated (items : List Json) :
    Snapshot.ofEntries ((items.filterMap statedUnit?).map .unit) =
      ⟨items.filterMap renderedUnit?,
        (positionsFrom (fun u => Text.isBlank u.name) 0 (items.filterMap statedUnit?)).map
          fun (j : Nat) => ⟨j, "unit has no name"⟩⟩ := by
  have hrendered : items.filterMap renderedUnit? =
      (items.filterMap statedUnit?).filter fun u => !Text.isBlank u.name := by
    rw [← List.filterMap_eq_filter, List.filterMap_filterMap]
    simp only [Option.bind_guard]
    rfl
  rw [hrendered]
  exact Snapshot.ofEntriesFrom_of_units 0 Snapshot.isUnitName_of_stated

/-- The record of a run: the items that state no unit at their positions,
and the units with a blank name at their ranks. -/
theorem result_of_reach (h : i.Reach base a t run t₁) :
    ∃ items, IsSnapshot i.document items ∧
      Renders base (i.request a) (items.filterMap renderedUnit?) t run.result t₁ ∧
      run.result.skipped = leftOut objection? 0 items ++
        (positionsFrom (fun u => Text.isBlank u.name) 0 (items.filterMap statedUnit?)).map
          fun (j : Nat) => ⟨j, "unit has no name"⟩ := by
  obtain ⟨hread, own, hsync, rfl⟩ := h
  obtain ⟨items, hitems, hsnapshot⟩ := Snapshot.ofJson_eq_ok hread.snapshot
  rw [hsnapshot] at hsync
  obtain ⟨scan, outcomes, hscan, _, hall, rfl⟩ := sync_eq_ok hsync
  rw [ofEntries_stated] at hall ⊢
  refine ⟨items, hitems, ⟨scan, outcomes, hscan, hall, rfl, rfl⟩, ?_⟩
  rw [hsnapshot]
  rfl

end

/-! ### A small setting -/

/-- The arguments of a run for the installation at `/lib`. -/
def smallArguments : SyncArguments where
  units := some "/units.json"
  config := none
  installRoot := some "/lib"
  outputDir := some "/out"
  check := false
  dryRun := false
  noDiff := false
  reportJson := none
  verbose := false

/-- A document of items that have nothing but a name. -/
def smallItems (names : List String) : List Json :=
  names.map fun name => .object [("name", .text name)]

/-- The inputs of a run that is given the items. -/
def smallInputs (items : List Json) : SyncInputs where
  config := {}
  unitsPath := ⟨.slash, ["units.json"]⟩
  document := .object [("units", .array items)]
  snapshot := ⟨items.filterMap statedUnit?, leftOut objection? 0 items⟩
  installRoot := smallRequest.installRoot
  outputDir := smallRequest.outputDir

/-- A tree with the document of units. -/
def smallFiles (document : String) : FileTree :=
  smallTree [(["units.json"], .file (Text.Utf8.encode document))]

/-- The small document is a snapshot of any items. -/
theorem isSnapshot_smallInputs (items : List Json) :
    IsSnapshot (smallInputs items).document items where
  units := rfl
  installRoot := nofun

/-- Where no library is and no name is in the way, the run gets to its
result. -/
theorem reach_smallInputs {items : List Json} {document : String}
    (hdocument : Document.ofBytes ⟨.slash, ["units.json"]⟩ (Text.Utf8.encode document) =
      .ok (.object [("units", .array items)]))
    (hnames : ∀ u ∈ items.filterMap renderedUnit?, u.name.toList.contains '\x00' = false) :
    ∃ run t₁, (smallInputs items).Reach [] smallArguments (smallFiles document) run t₁ := by
  have hsnapshot := Snapshot.ofJson_of_isSnapshot (isSnapshot_smallInputs items)
  have hread : (smallInputs items).AreRead [] smallArguments (smallFiles document) := {
    config := rfl
    unitsPath := ⟨"/units.json", ["units.json"], rfl, rfl, rfl⟩
    document := loadObject_of_read rfl hdocument
    snapshot := hsnapshot
    installRoot := ⟨none, rfl, rfl⟩
    outputDir := rfl }
  have hkept : (Snapshot.ofEntries ((items.filterMap statedUnit?).map .unit)).units =
      items.filterMap renderedUnit? := congrArg Snapshot.units (ofEntries_stated items)
  rw [← hkept] at hnames
  have hlib : (smallFiles document).node? ["lib"] = none := rfl
  have hmode : smallRequest.mode = .write := rfl
  obtain ⟨own, t₁, hsync⟩ := (exists_sync_iff hmode (scan_smallRequest hlib)).mpr
    ⟨by decide, Or.inl ⟨hnames, by decide⟩⟩
  exact ⟨_, t₁, hread, own, hsync, rfl⟩

/-! ### What the record points at -/

section

variable {base : Location} {a : SyncArguments} {t t₁ : FileTree} {i : SyncInputs} {run : SyncRun}

/-- A run shows its result, and puts it where the report belongs. The record
of the units that were left out meets each position of the document once,
together with the positions of the units that were given files, if and only
if no unit with a blank name stands behind an item that states no unit. Then
every entry has the position of its item, and no two have the same. -/
theorem skipped_positions_iff (h : i.Reach base a t run t₁) :
    (∀ output t', (runSync base a : Session CommandOutput) t = .ok output t' →
      output = run.shown a.verbose a.check (shownLog a.verbose i.snapshot.warnings) ∧
      ∀ text place, a.reportJson = some text →
        Path.resolve base (Path.ofText text) = .ok place →
        t'.read (Path.ofLocation place) = .ok (Text.Utf8.encode run.result.report.document)) ∧
    ∃ items, IsSnapshot i.document items ∧
      Renders base (i.request a) (items.filterMap renderedUnit?) t run.result t₁ ∧
      ((run.result.skipped.map SkippedUnit.index ++
        (positionsFrom (fun item => (renderedUnit? item).isSome) 0 items).map Nat.cast).Perm
          ((List.range items.length).map Nat.cast) ↔ NamelessFirst items) ∧
      (NamelessFirst items →
        run.result.skipped = leftOut objection? 0 items ++ leftOut nameless? 0 items ∧
        (run.result.skipped.map SkippedUnit.index).Nodup) := by
  constructor
  · intro output t' hrun
    rw [runSync_of_reach h] at hrun
    exact showRun_eq_ok hrun
  · obtain ⟨items, hitems, hrenders, hskipped⟩ := result_of_reach h
    have hindices : run.result.skipped.map SkippedUnit.index =
        (positionsFrom (fun item => (statedUnit? item).isNone) 0 items ++
          positionsFrom (fun u => Text.isBlank u.name) 0 (items.filterMap statedUnit?)).map
            Nat.cast := by
      rw [hskipped, List.map_append, Snapshot.map_index_leftOut_objection?, List.map_append,
        List.map_map]
      rfl
    -- Recorded positions are integers, and no two natural numbers are the same integer.
    have hcast : Function.Injective (Nat.cast : Nat → Int) := fun _ _ => Int.ofNat.inj
    have hrendered : ∀ item, (renderedUnit? item).isSome =
        (statedUnit? item).any (!Text.isBlank ·.name) := fun _ => Option.isSome_filter
    have hperm := ranks_perm_iff statedUnit? (fun u => Text.isBlank u.name) items
    simp only [← hrendered] at hperm
    refine ⟨items, hitems, hrenders, ?_, ?_⟩
    · rw [hindices, ← List.map_append, List.map_perm_map_iff hcast]
      exact hperm
    · intro hfirst
      -- The ranks are the positions, and no position is met twice.
      have hranks := (ranks_eq_iff statedUnit? (fun u => Text.isBlank u.name) 0 items).mpr hfirst
      have hnodup := (hperm.mpr hfirst).nodup_iff.mpr List.nodup_range
      constructor
      · rw [hskipped, hranks, ← leftOut_ite]
        rfl
      · rw [hindices]
        exact List.Nodup.map hcast (List.nodup_append.mp hnodup).1

end

/-- A blank name, an item that states no unit, and a unit. -/
def blankNameFirst : String :=
  "\x7b\"units\": [\x7b\"name\": \" \"\x7d, \x7b\"name\": \"\"\x7d, \x7b\"name\": \"A\"\x7d]\x7d"

/-- With the blank name in front the record points at the document, for the
names that the second sieve leaves out are counted from the start. -/
theorem skipped_positions_blankNameFirst : ∃ run t₁,
    (smallInputs (smallItems [" ", "", "A"])).Reach [] smallArguments
      (smallFiles blankNameFirst) run t₁ ∧
    run.result.skipped.map SkippedUnit.index = [1, 0] := by
  have hdocument : Document.ofBytes ⟨.slash, ["units.json"]⟩ (Text.Utf8.encode blankNameFirst) =
      .ok (.object [("units", .array (smallItems [" ", "", "A"]))]) := by
    decide +kernel
  obtain ⟨run, t₁, hreach⟩ := reach_smallInputs hdocument (by decide +kernel)
  obtain ⟨_, items, hitems, _, _, hpoints⟩ := skipped_positions_iff hreach
  obtain rfl := hitems.unique (isSnapshot_smallInputs _)
  obtain ⟨hskipped, _⟩ := hpoints (by decide +kernel)
  refine ⟨run, t₁, hreach, ?_⟩
  rw [hskipped, List.map_append, Snapshot.map_index_leftOut_objection?, map_index_leftOut]
  decide +kernel

/-- An item that states no unit, and a blank name. -/
def blankNameLast : String :=
  "\x7b\"units\": [\x7b\"name\": \"\"\x7d, \x7b\"name\": \" \"\x7d]\x7d"

/-- With the blank name behind, both items are recorded at the first
position, and nothing at the second one. -/
theorem skipped_positions_blankNameLast : ∃ run t₁ output,
    (smallInputs (smallItems ["", " "])).Reach [] smallArguments
      (smallFiles blankNameLast) run t₁ ∧
    (runSync [] smallArguments : Session CommandOutput) (smallFiles blankNameLast) =
      .ok output t₁ ∧
    run.result.skipped.map SkippedUnit.index = [0, 0] := by
  have hdocument : Document.ofBytes ⟨.slash, ["units.json"]⟩ (Text.Utf8.encode blankNameLast) =
      .ok (.object [("units", .array (smallItems ["", " "]))]) := by
    decide +kernel
  obtain ⟨run, t₁, hreach⟩ := reach_smallInputs hdocument (by decide +kernel)
  obtain ⟨items, hitems, _, hskipped⟩ := result_of_reach hreach
  obtain rfl := hitems.unique (isSnapshot_smallInputs _)
  refine ⟨run, t₁, _, hreach, runSync_of_reach hreach, ?_⟩
  rw [hskipped, List.map_append, Snapshot.map_index_leftOut_objection?]
  decide +kernel

end IdeProjects
