import IdeProjects.CommandLine.Arguments

/-!
# `IdeProjects.CommandLine.Command`: the commands

The program has three commands: `sync` regenerates all files, `scan`
lists the libraries of an installation, and `guid` shows the identifiers
of names. A `Command` is what a run was asked for, read off its
arguments.
-/

set_option autoImplicit false

namespace IdeProjects

/-- The arguments of `sync`. -/
structure SyncArguments where
  units : Option String
  config : Option String
  installRoot : Option String
  outputDir : Option String
  check : Bool
  dryRun : Bool
  noDiff : Bool
  reportJson : Option String
  verbose : Bool
  deriving DecidableEq, Repr

/-- The arguments of `scan`. -/
structure ScanArguments where
  installRoot : Option String
  config : Option String
  verbose : Bool
  deriving DecidableEq, Repr

/-- What a run is asked for. -/
inductive Command where
  | sync (arguments : SyncArguments)
  | scan (arguments : ScanArguments)
  | guid (names : List String)
  deriving DecidableEq, Repr

/-- The names of the commands. -/
inductive CommandName where
  | sync
  | scan
  | guid
  deriving DecidableEq, Repr

namespace CommandName

def all : List CommandName := [.sync, .scan, .guid]

def text : CommandName → String
  | .sync => "sync"
  | .scan => "scan"
  | .guid => "guid"

def ofText? (text : String) : Option CommandName := all.find? (·.text == text)

end CommandName

/-- The name of the program. -/
def programName : String := "project_sync"

/-- The form of the program itself: a command and its arguments. -/
def programForm : CommandForm where
  program := programName
  options := [.help]
  operands := .handedOn "command"

/-- The form of a command. -/
def CommandName.form (name : CommandName) : CommandForm :=
  let program := programName ++ " " ++ name.text
  match name with
  | .sync => {
      program
      options := [.help, .units, .config, .installRoot, .outputDir, .check, .dryRun,
        .noDiff, .reportJson, .verbose]
      required := [.units]
      operands := .refused }
  | .scan => {
      program
      options := [.help, .installRoot, .config, .verbose]
      operands := .refused }
  | .guid => { program, options := [.help], operands := .needed "names" }

namespace Command

/-- The value of an option that names something; an empty one does not. -/
def given? (a : Arguments) (o : CommandOption) : Option String :=
  (a.value? o).filter (· ≠ "")

/-- The command of a name and its arguments. -/
def ofParts (name : CommandName) (a : Arguments) : Command :=
  match name with
  | .sync => .sync {
      units := a.value? .units
      config := given? a .config
      installRoot := given? a .installRoot
      outputDir := given? a .outputDir
      check := a.has .check
      dryRun := a.has .dryRun
      noDiff := a.has .noDiff
      reportJson := given? a .reportJson
      verbose := a.has .verbose }
  | .scan => .scan {
      installRoot := given? a .installRoot
      config := given? a .config
      verbose := a.has .verbose }
  | .guid => .guid a.operands

/-- Reads the arguments of the program. What neither the program nor the
command has a use for is refused at the end. -/
def ofArguments (texts : List String) : Except Halt Command := do
  let outer ← programForm.read texts
  let text := outer.operands.head?.getD ""
  match CommandName.ofText? text with
  | none => .error (.misuse programName
      (.unknownCommand text (CommandName.all.map CommandName.text)))
  | some name =>
    let inner ← name.form.read outer.operands.tail
    let leftovers := outer.leftovers ++ inner.leftovers
    if leftovers.isEmpty then return ofParts name inner
    else .error (.misuse programName (.unrecognized leftovers))

end Command

end IdeProjects
