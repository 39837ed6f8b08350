import IdeProjects.CommandLine.Run

/-!
# `IdeProjects.Main`: the program

The outer layer: the host's files as a `Storage`, and `main`, which
reads the arguments, runs the command on them and shows what it has to
show. Nothing is decided here.

A condition of the host that is one of the five `FileIssue`s becomes a
`Fault`. Every other one, such as a missing permission or a full device,
stays an error of the host: an `attempt` has the words for it, so that a
file which cannot be written is recorded whatever the reason, and
outside of an attempt it ends the program.
-/

set_option autoImplicit false

namespace IdeProjects

/-- A computation on the host's files. -/
abbrev Host := ExceptT Fault IO

namespace Host

/-- The number of an error, which the host may give negated. -/
def errorNumber (code : UInt32) : Nat :=
  if code < 0x80000000 then code.toNat else (0 - code).toNat

/-- The issue behind an error of the host, if it is one of those a run
knows. -/
def issue? : IO.Error → Option FileIssue
  | .noFileOrDirectory _ _ _ => some .notFound
  | .noSuchThing _ _ _ => some .notFound
  | .alreadyExists _ _ _ => some .exists
  | .inappropriateType _ code _ =>
    some (if errorNumber code = FileIssue.isDirectory.number then .isDirectory
      else .notDirectory)
  | .invalidArgument _ code _ =>
    if errorNumber code = FileIssue.nameTooLong.number then some .nameTooLong
    else none
  | _ => none

/-- What an error of the host is made of: the path it names, if it names
one, its number and its words. -/
def condition? : IO.Error → Option (Option String × Nat × String)
  | .alreadyExists path? code text | .invalidArgument path? code text
  | .permissionDenied path? code text | .resourceExhausted path? code text
  | .inappropriateType path? code text | .noSuchThing path? code text =>
    some (path?, errorNumber code, text)
  | .noFileOrDirectory path code text | .interrupted path code text =>
    some (some path, errorNumber code, text)
  | .otherError code text | .resourceBusy code text | .resourceVanished code text
  | .unsupportedOperation code text | .hardwareFault code text
  | .unsatisfiedConstraints code text | .illegalOperation code text
  | .protocolError code text | .timeExpired code text =>
    some (none, errorNumber code, text)
  | .unexpectedEof | .userError _ => none

/-- The words for an error of the host, in the form of
`FileError.message`. -/
def message (error : IO.Error) : String :=
  match condition? error with
  | some (path?, number, text) =>
    "[Errno " ++ toString number ++ "] " ++ text ++
      ((path?.map fun path => ": " ++ Text.quoted path).getD "")
  | none => toString error

/-- Makes a request about a path. An error no run knows is passed on as
it is. -/
def request {α : Type} (p : Path) (act : String → IO α) : Host α := do
  if p.hasNull then throw .nullCharacter
  match ← (act p.text).toBaseIO with
  | .ok value => return value
  | .error error => match issue? error with
    | some issue => throw (.file ⟨issue, p.text⟩)
    | none => throwThe IO.Error error

/-- What stands at a path. -/
def kindAt? (text : String) : IO (Option FileKind) := do
  let entry : IO.FS.DirEntry := ⟨text, ""⟩
  let data ← entry.root.metadata
  return match data.type with
    | .dir => some .directory
    | .file => some .file
    | _ => some .special

/-- Does something, or says why the host's files did not allow it. -/
def attempt {α : Type} (act : Host α) : Host (Except String α) := do
  match ← act.run.toBaseIO with
  | .ok (.ok value) => return .ok value
  | .ok (.error (.file error)) => return .error error.message
  | .ok (.error fault) => throw fault
  | .error error => return .error (message error)

/-- The names in a directory. -/
def namesAt (text : String) : IO (List String) := do
  let entry : IO.FS.DirEntry := ⟨text, ""⟩
  return (← entry.root.readDir).toList.map (·.fileName)

end Host

instance : Storage Host where
  kind? p := do
    try Host.request p Host.kindAt?
    catch fault =>
      match fault with
      | .file ⟨.nameTooLong, _⟩ => throw fault
      | _ => return none
  read p := Host.request p fun text => return (← IO.FS.readBinFile text).toList
  entries p := Host.request p Host.namesAt
  makeDirectory p := Host.request p fun text => IO.FS.createDir text
  write p bytes := Host.request p fun text => IO.FS.writeBinFile text ⟨bytes.toArray⟩
  attempt := Host.attempt

/-- Shows lines on the two outputs. -/
def Host.show (output messages : List String) : IO Unit := do
  IO.print (CommandOutput.linesText output)
  (← IO.getStderr).putStr (CommandOutput.linesText messages)

/-- Runs the program on its arguments and gives its exit code. -/
def Host.runProgram (texts : List String) : IO UInt32 := do
  match Command.ofArguments texts with
  | .error halt =>
    Host.show halt.output halt.messages
    return halt.exitCode.toUInt32
  | .ok command =>
    let base := (Path.ofText (← IO.currentDir).toString).parts
    match ← (command.run base : Host CommandOutput).run with
    | .ok shown =>
      Host.show shown.output shown.messages
      return shown.exitCode.toUInt32
    | .error fault =>
      Host.show [] [fault.message]
      return CommandOutput.unfinishedCode.toUInt32

end IdeProjects

/-- The program. -/
def main (texts : List String) : IO UInt32 := IdeProjects.Host.runProgram texts
