import IdeProjects.Json.Basic
import IdeProjects.Path.Basic
import IdeProjects.Sync.Write
import IdeProjects.Unit.Snapshot

/-!
# `IdeProjects.Sync.Result`: what a run has done

The result of a run lists the files it took care of, the writes that
failed, the warnings and the units left out, each in the order of the
run. The report is the same as a JSON document.
-/

set_option autoImplicit false

namespace IdeProjects

/-- A file and how it stands; `unit` is none for the solution. -/
structure FileStatus where
  path : Path
  status : WriteStatus
  unit : Option String
  deriving DecidableEq, Repr

/-- A file that could not be brought up to date. -/
structure WriteFailure where
  path : Path
  message : String
  unit : Option String
  deriving DecidableEq, Repr

/-- The name of a unit that can be shown; an empty one cannot. -/
def shownUnit? (unit : Option String) : Option String := unit.filter (· ≠ "")

/-- What a failure says; a file without the name of a unit is the
solution. -/
def WriteFailure.describe (f : WriteFailure) : String :=
  let owner := match shownUnit? f.unit with
    | some name => "unit '" ++ name ++ "'"
    | none => "solution"
  owner ++ ": unable to write '" ++ f.path.text ++ "': " ++ f.message

/-- What a run has done. -/
structure SyncResult where
  files : List FileStatus := []
  warnings : List String := []
  skipped : List SkippedUnit := []
  failures : List WriteFailure := []
  deriving DecidableEq, Repr

namespace SyncResult

/-- Whether every write has worked. -/
def ok (r : SyncResult) : Bool := r.failures.isEmpty

/-- Whether a check has found a file that is not up to date. -/
def hasDrift (r : SyncResult) : Bool := r.files.any (·.status == .drift)

/-- The units whose files could not be written. -/
def failedUnits (r : SyncResult) : List String :=
  r.failures.filterMap fun f => shownUnit? f.unit

/-- The paths of the files that stand in one way. -/
def pathsWith (r : SyncResult) (status : WriteStatus) : List String :=
  (r.files.filter (·.status == status)).map (·.path.text)

/-! ### The report -/

def toolName : String := "project_sync"

def toolVersion : String := "1.0.0"

/-- The report of a run. -/
def report (r : SyncResult) : Json := .object [
  ("tool", .object [("name", .text toolName), ("version", .text toolVersion)]),
  ("status", .text (if r.ok then "pass" else "fail")),
  ("written", .ofTexts (r.pathsWith .written)),
  ("unchanged", .ofTexts (r.pathsWith .unchanged)),
  ("drift", .ofTexts (r.pathsWith .drift)),
  ("would_write", .ofTexts (r.pathsWith .wouldWrite)),
  ("warnings", .ofTexts r.warnings),
  ("skipped_units", .array (r.skipped.map SkippedUnit.toJson)),
  ("failures", .ofTexts (r.failures.map WriteFailure.describe))]

end SyncResult

end IdeProjects
