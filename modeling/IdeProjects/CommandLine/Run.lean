import IdeProjects.CommandLine.Command
import IdeProjects.Document
import IdeProjects.Sync.Run

/-!
# `IdeProjects.CommandLine.Run`: running a command

A run ends with an exit code and the lines it shows on its two outputs.
A refusal is shown as such and ends the run with `refusedCode`; every
other fault is the caller's to report.

The install root may be given on the command line, in the configuration
or in the snapshot of units; the first of them counts.
-/

set_option autoImplicit false

namespace IdeProjects

/-- What a run shows and how it ends. -/
structure CommandOutput where
  exitCode : Nat
  output : List String
  messages : List String
  deriving DecidableEq, Repr

namespace CommandOutput

/-- The exit code of a run that is refused. -/
def refusedCode : Nat := 2

/-- The exit code of a run that has not done all it should, or that has
found something to do. -/
def unfinishedCode : Nat := 1

/-- Lines as they are shown, each with its line feed. -/
def linesText (lines : List String) : String := String.join (lines.map (· ++ "\n"))

/-- The end of a run that is refused after some log entries. -/
def refused (messages : List String) (r : Refusal) : CommandOutput :=
  ⟨refusedCode, [], messages ++ [programName ++ " error: " ++ r.message]⟩

end CommandOutput

/-- Log entries as they are shown. -/
def shownLog (verbose : Bool) (log : List LogEntry) : List String :=
  (log.filter (·.isShown verbose)).map fun e => "[" ++ programName ++ "] " ++ e.text

/-- The install root that counts. The first comes from the command line
and is read from the working directory `base`. -/
def chooseInstallRoot (base : Location) (given : Option String)
    (config snapshot : Option Path) : Except Fault Path :=
  match given with
  | some text => (Path.resolve base (Path.ofText text)).map Path.ofLocation
  | none => match config, snapshot with
    | some path, _ => .ok path
    | none, some path => .ok path
    | none, none => .error (.refusal .noInstallRoot)

/-- The output directory that counts: the one from the command line, the
one of the configuration or the working directory. -/
def chooseOutputDir (base : Location) (given : Option String)
    (config : Option Location) : Except Fault Path :=
  match given with
  | some text => (Path.resolve base (Path.ofText text)).map Path.ofLocation
  | none => .ok (Path.ofLocation (config.getD base))

/-- A file of a run on a line. -/
def FileStatus.line (f : FileStatus) : String :=
  "[" ++ (shownUnit? f.unit).getD "solution" ++ "] " ++ f.path.name ++ ": " ++
    f.status.label

/-- What a run of `sync` shows, given its result with all units that were
left out. -/
def SyncRun.shown (run : SyncRun) (verbose check : Bool) (early : List String) :
    CommandOutput where
  exitCode :=
    if !run.result.ok || (check && run.result.hasDrift) then
      CommandOutput.unfinishedCode
    else 0
  output := run.diffs ++ run.result.files.map FileStatus.line
  messages := early ++ shownLog verbose run.log ++
    run.result.warnings.map ("warning: " ++ ·) ++
    run.result.failures.map fun f => "error: " ++ f.describe

/-- Puts the units that were left out before a run in front. -/
def SyncRun.skippedBefore (skipped : List SkippedUnit) (run : SyncRun) : SyncRun :=
  { run with result := { run.result with skipped := skipped ++ run.result.skipped } }

section

variable {m : Type → Type} [Monad m] [MonadExceptOf Fault m] [Storage m]

/-- The configuration of a run; the defaults if none is named. -/
def loadConfig (base : Location) : Option String → m SyncConfig
  | some text => SyncConfig.load base (Path.ofText text)
  | none => pure {}

/-- Runs `sync` once its inputs are read. -/
def runSyncWith (base : Location) (a : SyncArguments) (config : SyncConfig)
    (snapshot : Snapshot) (installRoot : Path) : m CommandOutput := do
  let outputDir ← MonadExcept.ofExcept
    (chooseOutputDir base a.outputDir config.outputDir)
  let request : SyncRequest := {
    installRoot
    outputDir
    layout := config.layout
    options := config.project
    mode := .ofSwitches a.check a.dryRun (!a.noDiff) }
  let run ← sync base request (snapshot.units.map .unit)
  let run := run.skippedBefore snapshot.skipped
  match a.reportJson with
  | some text =>
    let place ← MonadExcept.ofExcept (Path.resolve base (Path.ofText text))
    Document.write (Path.ofLocation place) run.result.report
  | none => pure ()
  return run.shown a.verbose a.check (shownLog a.verbose snapshot.warnings)

/-- Runs `sync`. -/
def runSync (base : Location) (a : SyncArguments) : m CommandOutput := do
  let config ← loadConfig base a.config
  let some text := a.units | throw .noPath
  let place ← MonadExcept.ofExcept (Path.resolve base (Path.ofText text))
  let unitsPath := Path.ofLocation place
  let document ← Document.loadObject unitsPath
  let snapshot ← MonadExcept.ofExcept (Snapshot.ofJson document)
  let snapshotRoot ← MonadExcept.ofExcept
    (SyncConfig.place? base unitsPath.parent (document.field? "install_root"))
  match chooseInstallRoot base a.installRoot (config.installRoot.map Path.ofLocation)
      (snapshotRoot.map Path.ofLocation) with
  | .ok installRoot => runSyncWith base a config snapshot installRoot
  | .error (.refusal r) => return .refused (shownLog a.verbose snapshot.warnings) r
  | .error fault => throw fault

/-- Runs `scan`. -/
def runScan (base : Location) (a : ScanArguments) : m CommandOutput := do
  let config ← loadConfig base a.config
  let installRoot ← MonadExcept.ofExcept (chooseInstallRoot base a.installRoot
    (config.installRoot.map Path.ofLocation) none)
  let scan ← scanLibraries base installRoot config.layout
  let libraries := scan.libraries.mergeSort fun r s => r.key ≤ s.key
  return ⟨0, libraries.map (·.path), shownLog a.verbose scan.log⟩

/-- Runs `guid`. -/
def runGuid (names : List String) : CommandOutput :=
  ⟨0, names.map fun name => name ++ " " ++ Guid.braced name, []⟩

/-- Runs a command in the working directory `base`. -/
def Command.run (base : Location) (c : Command) : m CommandOutput := do
  try
    match c with
    | .sync a => runSync base a
    | .scan a => runScan base a
    | .guid names => return runGuid names
  catch fault =>
    match fault with
    | .refusal r => return .refused [] r
    | _ => throw fault

end

/-- The exit code of a program that ends without running a command. -/
def Halt.exitCode : Halt → Nat
  | .help _ => 0
  | .misuse _ _ => CommandOutput.refusedCode

/-- The line that shows how a command is used. -/
def CommandForm.usage (form : CommandForm) : String :=
  let options := form.options.map fun o =>
    let text := o.label ++ if o.takesValue then " VALUE" else ""
    if o ∈ form.required then text else "[" ++ text ++ "]"
  let operands := match form.operands with
    | .refused => []
    | .needed label | .handedOn label => [label ++ " ..."]
  "usage: " ++ " ".intercalate (form.program :: options ++ operands)

/-- What a program that ends so has to show. -/
def Halt.output : Halt → List String
  | .help form => [form.usage]
  | .misuse _ _ => []

/-- What is said about arguments that are turned down. -/
def Halt.messages : Halt → List String
  | .help _ => []
  | .misuse program error => [program ++ ": error: " ++ error.message]

end IdeProjects
