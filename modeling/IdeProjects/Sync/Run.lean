import IdeProjects.Config.Basic
import IdeProjects.Descriptor.Project
import IdeProjects.Descriptor.Solution
import IdeProjects.Library.Scan
import IdeProjects.Sync.Result
import IdeProjects.Unit.Snapshot

/-!
# `IdeProjects.Sync.Run`: regenerating all files

A run sifts the units, scans for libraries once, and brings one file per
unit up to date and then the solution file. Each file is a `Target`, and
a target that cannot be written is recorded and stops no other: only a
path that no file can have ends the run.
-/

set_option autoImplicit false

namespace IdeProjects

/-- A file of a run: where it belongs, what it has to hold and, for a
project file, the unit it is for. -/
structure Target where
  path : Path
  content : String
  unit : Option String
  deriving DecidableEq, Repr

/-- What became of a target. -/
inductive Outcome where
  | done (file : FileStatus) (diff? : Option String)
  | failed (failure : WriteFailure)
  deriving DecidableEq, Repr

namespace Outcome

def file? : Outcome → Option FileStatus
  | .done file _ => some file
  | .failed _ => none

def failure? : Outcome → Option WriteFailure
  | .done _ _ => none
  | .failed failure => some failure

/-- The diff that is shown for a target. -/
def diff? : Outcome → Option String
  | .done _ diff => diff
  | .failed _ => none

/-- What is told about a target. -/
def log : Outcome → LogEntry
  | .done file _ => ⟨.debug, file.path.name ++ ": " ++ file.status.label⟩
  | .failed failure => ⟨.error, failure.describe⟩

end Outcome

/-- The targets of the kept units, one each and in their order. -/
def projectTargets {base : Location} (outputDir : Path) (options : RenderOptions)
    (libraries : List (LibraryReference base)) (units : List CompilationUnit) :
    List Target :=
  units.map fun u => {
    path := outputDir.child (projectFileName u.name)
    content := (u.resolve libraries).projectText options
    unit := some u.name }

/-- The name of the solution file in a directory, which is the name of
the directory itself. -/
def solutionFileName (directory : Location) : String :=
  directory.getLast?.getD "" ++ ".sln"

/-- The target of the solution. -/
def solutionTarget (base : Location) (outputDir : Path)
    (units : List CompilationUnit) : Except Fault Target := do
  let directory ← Path.resolve base outputDir
  return {
    path := outputDir.child (solutionFileName directory)
    content := solutionText (units.map (·.name))
    unit := none }

/-- What a run is asked for. -/
structure SyncRequest where
  installRoot : Path
  outputDir : Path
  layout : ScanLayout := {}
  options : RenderOptions := {}
  mode : WriteMode := .write
  deriving DecidableEq, Repr

/-- What a run has done, and all it has to show for it. -/
structure SyncRun where
  result : SyncResult
  log : List LogEntry
  diffs : List String
  deriving DecidableEq, Repr

/-- The last words of a run. -/
def closingLog (unitCount failureCount : Nat) : List LogEntry :=
  ⟨.info, "Generated project files for " ++ toString unitCount ++ " units."⟩ ::
    if failureCount = 0 then []
    else [⟨.error, "Failed to write " ++ toString failureCount ++ " file(s)."⟩]

/-- A run read off what it met: the units, the libraries, and what
became of each target. -/
def SyncRun.ofOutcomes {base : Location} (snapshot : Snapshot)
    (scan : LibraryScan base) (outcomes : List Outcome) : SyncRun :=
  let failures := outcomes.filterMap Outcome.failure?
  { result := {
      files := outcomes.filterMap Outcome.file?
      warnings := scan.warnings
      skipped := snapshot.skipped
      failures }
    log := snapshot.warnings ++ scan.log ++ outcomes.map Outcome.log ++
      closingLog snapshot.units.length failures.length
    diffs := outcomes.filterMap Outcome.diff? }

section

variable {m : Type → Type} [Monad m] [MonadExceptOf Fault m] [Storage m]

/-- Brings a target up to date, or records that it cannot be. -/
def Target.bringUpToDate (mode : WriteMode) (t : Target) : m Outcome := do
  match ← Storage.attempt (writeIfChanged mode t.path t.content) with
  | .ok written => return .done ⟨t.path, written.status, t.unit⟩ written.diff?
  | .error message => return .failed ⟨t.path, message, t.unit⟩

/-- Brings targets up to date in their order. -/
def bringAllUpToDate (mode : WriteMode) : List Target → m (List Outcome)
  | [] => pure []
  | t :: rest => do
    let outcome ← t.bringUpToDate mode
    return outcome :: (← bringAllUpToDate mode rest)

/-- Regenerates the project files of units and the solution file, in the
working directory `base`. -/
def sync (base : Location) (request : SyncRequest) (entries : List Snapshot.Entry) :
    m SyncRun := do
  let snapshot := Snapshot.ofEntries entries
  let scan ← scanLibraries base request.installRoot request.layout
  let projects ← bringAllUpToDate request.mode
    (projectTargets request.outputDir request.options scan.libraries snapshot.units)
  let target ← MonadExcept.ofExcept
    (solutionTarget base request.outputDir snapshot.units)
  let solution ← target.bringUpToDate request.mode
  return .ofOutcomes snapshot scan (projects ++ [solution])

end

end IdeProjects
