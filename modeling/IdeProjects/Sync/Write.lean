import IdeProjects.Diff.Unified
import IdeProjects.Storage.Basic
import IdeProjects.Text.Utf8

/-!
# `IdeProjects.Sync.Write`: bringing one file up to date

A file that already holds the bytes of its text is left alone. What
happens to any other is decided by the mode: a check only reports it and
may show the change, a dry run only reports it, and otherwise it is
written. Files are compared as bytes, so a file in another encoding
counts as changed.
-/

set_option autoImplicit false

namespace IdeProjects

/-- What a run does about files that are not up to date. -/
inductive WriteMode where
  | write
  | dryRun
  | check (showDiff : Bool)
  deriving DecidableEq, Repr

/-- The mode that the switches of a run ask for: a check is never a dry
run, and only a check shows changes. -/
def WriteMode.ofSwitches (check dryRun showDiff : Bool) : WriteMode :=
  if check then .check showDiff else if dryRun then .dryRun else .write

/-- How a file stands at the end. -/
inductive WriteStatus where
  | unchanged
  | drift
  | wouldWrite
  | written
  deriving DecidableEq, Repr

namespace WriteStatus

def all : List WriteStatus := [.unchanged, .drift, .wouldWrite, .written]

def label : WriteStatus → String
  | .unchanged => "unchanged"
  | .drift => "drift"
  | .wouldWrite => "would-write"
  | .written => "written"

def ofLabel? (label : String) : Option WriteStatus :=
  all.find? (·.label == label)

end WriteStatus

/-- How a file stands, and the diff that is shown for it. -/
structure Written where
  status : WriteStatus
  diff? : Option String := none
  deriving DecidableEq, Repr

section

variable {m : Type → Type} [Monad m] [MonadExceptOf Fault m] [Storage m]

/-- The bytes at a path where something stands. -/
def existingBytes? (path : Path) : m (Option (List UInt8)) := do
  if (← Storage.kind? path).isSome then return some (← Storage.read path)
  else return none

/-- The diff of a file that holds other bytes, or of one that is not
there. -/
def fileDiff (path : Path) (existing : Option (List UInt8)) (content : String) :
    String :=
  unifiedDiff path.text
    (String.ofList (Text.Utf8.decodeLossy (existing.getD []))) content

/-- Brings a file up to date, as far as the mode allows. -/
def writeIfChanged (mode : WriteMode) (path : Path) (content : String) :
    m Written := do
  let bytes := Text.Utf8.encode content
  let existing ← existingBytes? path
  if existing = some bytes then return ⟨.unchanged, none⟩
  else match mode with
    | .check showDiff =>
      return ⟨.drift, if showDiff then some (fileDiff path existing content) else none⟩
    | .dryRun => return ⟨.wouldWrite, none⟩
    | .write =>
      Storage.writeWithin path bytes
      return ⟨.written, none⟩

end

end IdeProjects
