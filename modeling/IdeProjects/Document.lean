import IdeProjects.Config.Basic
import IdeProjects.Json.Writer
import IdeProjects.Storage.Basic
import IdeProjects.Text.Lines
import IdeProjects.Unit.Snapshot

/-!
# `IdeProjects.Document`: documents in files

Configurations, unit snapshots and reports are files that hold one JSON
document each. A file that cannot be read and a text that is no JSON are
refused with the path of the file; bytes that are no UTF-8 are a fault
of their own, which no refusal covers.

The texts of a configuration are read with all their codes, because its
paths are looked up. Snapshots are read with their texts repaired: the
units of a run have texts of characters, and a text with a half of a
surrogate pair is taken for another one here.
-/

set_option autoImplicit false

namespace IdeProjects

namespace Document

/-- The value that bytes hold, with all codes of its texts; `path` names
their file in a refusal. -/
def codedOfBytes (path : Path) (bytes : List UInt8) : Except Fault Json.Coded :=
  match Text.Utf8.decode bytes with
  | .error malformed => .error (.encoding malformed)
  | .ok chars =>
    match Json.readCoded (Text.unifyNewlines chars) with
    | .ok value => .ok value
    | .error (.malformed issue position) =>
      .error (.refusal (.malformed path.text issue position))
    | .error (.tooManyDigits count) => .error (.tooManyDigits (some count))

/-- The value that bytes hold, its texts repaired. -/
def ofBytes (path : Path) (bytes : List UInt8) : Except Fault Json :=
  (codedOfBytes path bytes).map Json.repaired

/-- The bytes of the document of a value, if it has one. -/
def toBytes (value : Json) : Except Fault (List UInt8) :=
  if value.hasLong then .error (.tooManyDigits none)
  else .ok (Text.Utf8.encode value.document)

/-- A value whose document has to be an object. -/
def asObject {τ : Type} (path : Path) (value : Json τ) : Except Fault (Json τ) :=
  match value with
  | .object _ => .ok value
  | _ => .error (.refusal (.rootNotObject path.text))

section

variable {m : Type → Type} [Monad m] [MonadExceptOf Fault m] [Storage m]

/-- The bytes of a document. -/
def readBytes (path : Path) : m (List UInt8) := do
  match ← Storage.attempt (Storage.read path) with
  | .ok bytes => return bytes
  | .error cause => throw (.refusal (.unreadable path.text cause))

/-- Reads a document. -/
def load (path : Path) : m Json := do
  MonadExcept.ofExcept (ofBytes path (← readBytes path))

/-- Reads a document that has to be an object. -/
def loadObject (path : Path) : m Json := do
  MonadExcept.ofExcept (asObject path (← load path))

/-- Reads a document that has to be an object, with all codes of its
texts. -/
def loadCodedObject (path : Path) : m Json.Coded := do
  let value ← MonadExcept.ofExcept (codedOfBytes path (← readBytes path))
  MonadExcept.ofExcept (asObject path value)

/-- Writes a document and makes the directories for it, which are there
also for a value that turns out to have no document. -/
def write (path : Path) (value : Json) : m Unit := do
  Storage.makeDirectories path.parent
  Storage.write path (← MonadExcept.ofExcept (toBytes value))

end

end Document

section

variable {m : Type → Type} [Monad m] [MonadExceptOf Fault m] [Storage m]

/-- Reads a snapshot of units. -/
def Snapshot.load (path : Path) : m Snapshot := do
  MonadExcept.ofExcept (Snapshot.ofJson (← Document.loadObject path))

/-- Reads a configuration for a run in the working directory `base`.
Paths in it are read from its own directory. -/
def SyncConfig.load (base : Location) (path : Path) : m SyncConfig := do
  let place ← MonadExcept.ofExcept (Path.resolve base path)
  let path := Path.ofLocation place
  if ← Storage.isFile path then
    let value ← Document.loadCodedObject path
    MonadExcept.ofExcept (SyncConfig.ofCoded base path.parent value)
  else throw (.refusal (.missingConfig path.text))

end

end IdeProjects
