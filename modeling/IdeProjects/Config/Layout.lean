import IdeProjects.Json.Basic

/-!
# `IdeProjects.Config.Layout`: where an installation keeps its libraries

A layout names the directory of managed libraries under the install
root, the directory of modules below that one, and a pattern for the
file names in each. `LayoutRecord` holds the layout as a document gives
it, and `LayoutRecord.layout` is what it means.
-/

set_option autoImplicit false

namespace IdeProjects

/-- Where the libraries of an installation lie. -/
structure ScanLayout where
  managedDir : String := "Managed"
  rootPattern : String := "Unity*.dll"
  moduleDir : String := "UnityEngine"
  modulePattern : String := "UnityEngine.*.dll"
  deriving DecidableEq, Repr, Inhabited

/-- A layout as a document gives it. -/
structure LayoutRecord (τ : Type := String) where
  managedDir : Json τ
  rootPattern : Json τ
  moduleDir : Json τ
  modulePattern : Json τ
  deriving DecidableEq

namespace LayoutRecord

section

variable {τ : Type} [DocumentText τ]

/-- Takes the layout of an object; what is not given has its default. -/
def ofJson [DecidableEq τ] (value : Json τ) : LayoutRecord τ :=
  let defaults : ScanLayout := {}
  let part (name default : String) : Json τ :=
    (value.field? name).getD (.text (DocumentText.ofString default))
  { managedDir := part "managed_dir" defaults.managedDir
    rootPattern := part "root_pattern" defaults.rootPattern
    moduleDir := part "module_dir" defaults.moduleDir
    modulePattern := part "module_pattern" defaults.modulePattern }

/-- What the layout means; a part that is no text keeps its default. -/
def layout (r : LayoutRecord τ) : ScanLayout :=
  let defaults : ScanLayout := {}
  let meaning (part : Json τ) (default : String) : String :=
    (part.text?.map DocumentText.repaired).getD default
  { managedDir := meaning r.managedDir defaults.managedDir
    rootPattern := meaning r.rootPattern defaults.rootPattern
    moduleDir := meaning r.moduleDir defaults.moduleDir
    modulePattern := meaning r.modulePattern defaults.modulePattern }

end

/-- The layout as a document states it. -/
def toJson (r : LayoutRecord) : Json := .object [
  ("managed_dir", r.managedDir),
  ("root_pattern", r.rootPattern),
  ("module_dir", r.moduleDir),
  ("module_pattern", r.modulePattern)]

end LayoutRecord

end IdeProjects
