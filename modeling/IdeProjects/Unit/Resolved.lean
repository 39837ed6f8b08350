import IdeProjects.Library.ReferenceSet
import IdeProjects.Unit.Basic

/-!
# `IdeProjects.Unit.Resolved`: a unit with all its libraries

A unit states some libraries itself and gets the discovered ones beside
them. Its own come first, in their order; the discovered ones follow in
the order of their keys. A library that is found under both takes the
discovered spelling in the place of the unit's own.
-/

set_option autoImplicit false

namespace IdeProjects

/-- A unit whose references are settled. -/
structure ResolvedUnit (base : Location) where
  name : String
  sourceFiles : List String
  defines : List String
  references : List (LibraryReference base)
  projectReferences : List String
  deriving DecidableEq, Repr

namespace ResolvedUnit

variable {base : Location}

/-- The unit with the same fields and the paths of the references. -/
def toUnit (u : ResolvedUnit base) : CompilationUnit where
  name := u.name
  sourceFiles := u.sourceFiles
  defines := u.defines
  references := u.references.map (·.path)
  projectReferences := u.projectReferences

end ResolvedUnit

/-- The references of a unit: its own paths, then the discovered
libraries in their order. -/
def mergeReferences {base : Location} (paths : List String)
    (discovered : List (LibraryReference base)) : ReferenceSet base :=
  (ReferenceSet.ofList (paths.map fun path => ⟨path⟩)).addAll
    (discovered.mergeSort LibraryReference.before)

/-- Settles the references of a unit. -/
def CompilationUnit.resolve {base : Location} (u : CompilationUnit)
    (discovered : List (LibraryReference base)) : ResolvedUnit base where
  name := u.name
  sourceFiles := u.sourceFiles
  defines := u.defines
  references := (mergeReferences u.references discovered).toList
  projectReferences := distinct u.projectReferences

end IdeProjects
