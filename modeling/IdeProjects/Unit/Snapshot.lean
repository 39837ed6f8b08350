import IdeProjects.Text.Tables
import IdeProjects.Unit.Basic

/-!
# `IdeProjects.Unit.Snapshot`: the units of one run

Units come from two sides and are sifted on each. `Snapshot.ofJson`
reads a snapshot document and skips the items its unit schema objects
to; `Snapshot.ofEntries` takes units a caller hands over and skips those
that no file can be named after. Every skipped unit is recorded with its
position in the list it came from and the reason, and gives a warning.
-/

set_option autoImplicit false

namespace IdeProjects

/-- A unit that was left out: its position and why. -/
structure SkippedUnit where
  index : Int
  reason : String
  deriving DecidableEq, Repr

/-- The position and the reason as a document states them. -/
def SkippedUnit.toJson (s : SkippedUnit) : Json :=
  .object [("index", .integer s.index), ("reason", .text s.reason)]

/-- The warning about a unit that was left out. -/
def SkippedUnit.warning (s : SkippedUnit) : LogEntry :=
  ⟨.warning, "Skipping malformed unit #" ++ toString s.index ++ ": " ++ s.reason⟩

/-- The units that stay and those that were left out, both in order. -/
structure Snapshot where
  units : List CompilationUnit
  skipped : List SkippedUnit
  deriving DecidableEq, Repr

namespace Snapshot

/-- The warnings about the units left out. -/
def warnings (s : Snapshot) : List LogEntry := s.skipped.map SkippedUnit.warning

/-- Puts a unit in front. -/
def keep (u : CompilationUnit) (s : Snapshot) : Snapshot :=
  ⟨u :: s.units, s.skipped⟩

/-- Records a unit left out before all others. -/
def skip (index : Nat) (reason : String) (s : Snapshot) : Snapshot :=
  ⟨s.units, ⟨index, reason⟩ :: s.skipped⟩

/-! ### From a document -/

/-- Sifts the items of a document, the first of them at `index`. -/
def ofItems (index : Nat) : List Json → Except Fault Snapshot
  | [] => .ok ⟨[], []⟩
  | item :: rest =>
    match DocumentKind.unit.errors item with
    | [] => do
      let record ← UnitRecord.ofJson item
      let snapshot ← ofItems (index + 1) rest
      return snapshot.keep record.unit
    | errors => do
      let snapshot ← ofItems (index + 1) rest
      return snapshot.skip index ("; ".intercalate errors)

/-- The items under "units". -/
def itemsOf (value : Json) : List Json :=
  match value.field? "units" with
  | some (.array items) => items
  | _ => []

/-- Reads a snapshot document. -/
def ofJson (value : Json) : Except Fault Snapshot := do
  validate .units value
  ofItems 0 (itemsOf value)

/-! ### From a caller -/

/-- Whether a name is one name in a directory: it has no slash of either
kind and is not reserved. -/
def isPlainName (name : String) : Bool :=
  !name.toList.contains '/' && !name.toList.contains '\\' &&
    !Schema.reservedNames.contains name

/-- An entry of a list of units as a caller hands it over. A unit whose
name is no text cannot be told from one without a name. -/
inductive Entry where
  | absent
  | unnamed
  | unit (unit : CompilationUnit)
  deriving DecidableEq, Repr

/-- Why an entry is left out, or the unit that stays. -/
def Entry.sift : Entry → Except String CompilationUnit
  | .absent => .error "unit has no name"
  | .unnamed => .error "unit has no name"
  | .unit u =>
    if Text.isBlank u.name then .error "unit has no name"
    else if isPlainName u.name then .ok u
    else .error ("unit name '" ++ u.name ++ "' is not a plain file name")

/-- Sifts entries, the first of them at `index`. -/
def ofEntriesFrom (index : Nat) : List Entry → Snapshot
  | [] => ⟨[], []⟩
  | entry :: rest =>
    match entry.sift with
    | .ok u => (ofEntriesFrom (index + 1) rest).keep u
    | .error reason => (ofEntriesFrom (index + 1) rest).skip index reason

/-- Sifts the units a caller hands over. -/
def ofEntries (entries : List Entry) : Snapshot := ofEntriesFrom 0 entries

end Snapshot

end IdeProjects
