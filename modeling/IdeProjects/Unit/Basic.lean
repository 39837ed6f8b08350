import IdeProjects.Distinct
import IdeProjects.Fault

/-!
# `IdeProjects.Unit.Basic`: compilation units

A unit is a name with four lists of texts: the source files, the symbols
it defines, the libraries and the other units it refers to.

A unit of a document is read in two steps. `UnitRecord.ofJson` takes the
fields as they are, whatever their kinds, keeps one of each symbol and
project reference, and fails where a field has no elements or they
cannot be compared; `UnitRecord.unit` keeps the texts. For a unit that
its schema accepts the first step cannot fail and the second loses
nothing.

All texts of a unit are texts of characters, with an encoding in UTF-8.
-/

set_option autoImplicit false

namespace IdeProjects

/-- A unit that project files are written for. -/
structure CompilationUnit where
  name : String
  sourceFiles : List String := []
  defines : List String := []
  references : List String := []
  projectReferences : List String := []
  deriving DecidableEq, Repr, Inhabited

/-- The name of the project file of a unit. -/
def projectFileName (unitName : String) : String := unitName ++ ".csproj"

namespace CompilationUnit

/-- The unit as a document states it. -/
def toJson (u : CompilationUnit) : Json := .object [
  ("name", .text u.name),
  ("source_files", .ofTexts u.sourceFiles),
  ("defines", .ofTexts u.defines),
  ("references", .ofTexts u.references),
  ("project_references", .ofTexts u.projectReferences)]

end CompilationUnit

/-- The fields of a unit as a document holds them. -/
structure UnitRecord where
  name : Json
  sourceFiles : List Json
  defines : List Json
  references : List Json
  projectReferences : List Json

namespace UnitRecord

/-- Takes the fields of a unit, in their order. -/
def ofJson (value : Json) : Except Fault UnitRecord := do
  let name ← match value.field? "name" with
    | some name => .ok name
    | none => .error (.missingField "name")
  let sourceFiles ← value.optionalElements "source_files"
  let defines ← value.optionalElements "defines"
  let defines ← Json.distinctScalars [] defines
  let references ← value.optionalElements "references"
  let projectReferences ← value.optionalElements "project_references"
  let projectReferences ← Json.distinctScalars [] projectReferences
  return { name, sourceFiles, defines, references, projectReferences }

/-- The fields as a document states them. -/
def toJson (r : UnitRecord) : Json := .object [
  ("name", r.name),
  ("source_files", .array r.sourceFiles),
  ("defines", .array r.defines),
  ("references", .array r.references),
  ("project_references", .array r.projectReferences)]

/-- The unit of the texts in a record. -/
def unit (r : UnitRecord) : CompilationUnit where
  name := r.name.text?.getD ""
  sourceFiles := r.sourceFiles.filterMap Json.text?
  defines := r.defines.filterMap Json.text?
  references := r.references.filterMap Json.text?
  projectReferences := r.projectReferences.filterMap Json.text?

end UnitRecord

end IdeProjects
