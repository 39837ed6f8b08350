import IdeProjects.Fault
import IdeProjects.Path.Basic

/-!
# `IdeProjects.Storage.Basic`: access to files

Everything a run does with files goes through five requests, each about
one path, and each refused with a `Fault`. Two instances exist: the file
tree in memory, which is plain data, and the host's own files, in the
command line. All that is built on the requests is the same for both.

The two differ in why they turn a request down. The tree in memory knows
the five conditions of `FileIssue`, and it turns a write down before it
has changed anything. The host has more conditions, such as a missing
permission or a full device, and can stop in the middle of a write. A
computation that has to go on after either asks with `attempt`, which
has the words for all of them. What is proved about a run is proved for
the tree in memory.
-/

set_option autoImplicit false

namespace IdeProjects

/-- What can stand at a path. The special files are the host's devices
and pipes: they are there, and are neither of the other two. -/
inductive FileKind where
  | file
  | directory
  | special
  deriving DecidableEq, Repr

/-- Files that a computation in `m` can work on. -/
class Storage (m : Type → Type) where
  /-- What stands at a path. A path that leads nowhere has nothing;
  only a name that is too long is refused. -/
  kind? : Path → m (Option FileKind)
  /-- The bytes of a file. -/
  read : Path → m (List UInt8)
  /-- The names in a directory, in the order of the storage. -/
  entries : Path → m (List String)
  /-- Makes one directory in a directory that exists. -/
  makeDirectory : Path → m Unit
  /-- Makes a file with the given bytes, or replaces the bytes of the
  file that is there. -/
  write : Path → List UInt8 → m Unit
  /-- Does something with files, or says in words why they did not allow
  it. Faults that do not come from the files are not held up. -/
  attempt {α : Type} : m α → m (Except String α)

namespace Storage

variable {m : Type → Type} [Monad m] [MonadExceptOf Fault m] [Storage m]

def isDirectory (p : Path) : m Bool := do
  return (← kind? p) == some .directory

def isFile (p : Path) : m Bool := do
  return (← kind? p) == some .file

/-- Makes a directory unless it is there. -/
def makeUnlessThere (p : Path) : m Unit := do
  try makeDirectory p
  catch fault =>
    match fault with
    | .file error =>
      if error.issue = .notFound then throw fault
      else if ← isDirectory p then pure ()
      else throw fault
    | _ => throw fault

/-- Makes a directory and the directories above it that are missing; at
most `fuel` of them. -/
def makeWithin : (fuel : Nat) → Path → m Unit
  | 0, p => makeUnlessThere p
  | fuel + 1, p => do
    try makeUnlessThere p
    catch fault =>
      match fault with
      | .file error =>
        if error.issue = .notFound then
          makeWithin fuel p.parent
          makeUnlessThere p
        else throw fault
      | _ => throw fault

/-- Makes a directory and all directories above it that are missing. -/
def makeDirectories (p : Path) : m Unit := makeWithin p.parts.length p

/-- Writes a file and makes the directories for it. -/
def writeWithin (p : Path) (bytes : List UInt8) : m Unit := do
  makeDirectories p.parent
  write p bytes

end Storage

end IdeProjects
