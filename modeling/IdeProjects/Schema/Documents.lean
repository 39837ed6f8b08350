import IdeProjects.Schema.Basic

/-!
# `IdeProjects.Schema.Documents`: the schemas of the program's documents

Three kinds of documents are checked: the configuration, the unit
snapshot as a whole, and each unit in it. The configuration is closed,
because an unknown setting is most likely a misspelt one; a snapshot and
its units may carry more than this program reads.
-/

set_option autoImplicit false

namespace IdeProjects

namespace Schema

section

variable {τ : Type} [DecidableEq τ] [DocumentText τ]

/-- The layout of an installation. -/
def layout : Schema τ := settings [
  ("managed_dir", someText),
  ("root_pattern", someText),
  ("module_dir", someText),
  ("module_pattern", someText)]

/-- What `reference_collisions` may be. -/
def collisionNames : List String := ["keep", "overwrite"]

/-- The settings of project files. -/
def project : Schema τ := settings [
  ("target_framework", someText),
  ("lang_version", someText),
  ("output_path", text),
  ("allow_unsafe_blocks", kind .boolean),
  ("project_type_guids", listOfTexts),
  ("reference_collisions", among collisionNames)]

/-- The configuration. -/
def config : Schema τ := settings [
  ("install_root", someText),
  ("output_dir", someText),
  ("layout", layout),
  ("project", project)]

/-- A unit snapshot. -/
def units : Schema τ := all [
  kind .object,
  required "units",
  fields [("units", kind .array), ("install_root", text)]]

omit [DecidableEq τ] in
/-- The name of a unit. -/
def unitName : Schema τ := all [kind .text, nonEmpty, plain, notReserved]

/-- A unit of a snapshot. -/
def unit : Schema τ := all [
  kind .object,
  required "name",
  fields [
    ("name", unitName),
    ("source_files", listOfTexts),
    ("defines", listOfTexts),
    ("references", listOfTexts),
    ("project_references", listOfTexts)]]

end

end Schema

/-- The kinds of documents with a schema. -/
inductive DocumentKind where
  | config
  | units
  | unit
  deriving DecidableEq, Repr

namespace DocumentKind

def name : DocumentKind → String
  | .config => "config"
  | .units => "units"
  | .unit => "unit"

/-- The kind of a name. -/
def ofName? : String → Option DocumentKind
  | "config" => some .config
  | "units" => some .units
  | "unit" => some .unit
  | _ => none

section

variable {τ : Type} [DecidableEq τ] [DocumentText τ]

def schema : DocumentKind → Schema τ
  | .config => .config
  | .units => .units
  | .unit => .unit

/-- What a document of the kind violates, one line each, by place. -/
def errors (kind : DocumentKind) (value : Json τ) : List String :=
  (Violation.inOrder (kind.schema value)).map Violation.describe

end

end DocumentKind

end IdeProjects
