import IdeProjects.Fault

/-!
# `IdeProjects.Config.Options`: what project files say beside their unit

The settings of project files, with their defaults. `OptionRecord` holds
the settings as a document gives them, unchecked but for the collision
mode; `OptionRecord.options` is what they mean, and fails where a text
is needed and something else stands. Checked settings always mean
something.
-/

set_option autoImplicit false

namespace IdeProjects

/-- What becomes of libraries with one display name: all stay, or the
last takes the place of the others. -/
inductive CollisionMode where
  | keep
  | overwrite
  deriving DecidableEq, Repr

namespace CollisionMode

def name : CollisionMode → String
  | .keep => "keep"
  | .overwrite => "overwrite"

def ofName? : String → Option CollisionMode
  | "keep" => some .keep
  | "overwrite" => some .overwrite
  | _ => none

/-- The mode of an unchecked setting. -/
def ofJson {τ : Type} [DocumentText τ] (value : Json τ) : Except Fault CollisionMode :=
  match value with
  | .array _ | .object _ => .error (.unhashable value.kind)
  | _ => match value.text?.bind (ofName? <| DocumentText.repaired ·) with
    | some mode => .ok mode
    | none => .error (.refusal .badCollisionSetting)

end CollisionMode

/-- The type of a project in C#. -/
def csharpProjectType : String := "\x7bFAE04EC0-301F-11D3-BF4B-00C04F79EFBC\x7d"

/-- The type of a project of the host application. -/
def hostProjectType : String := "\x7bE097FAD1-6243-4DAD-9C02-E9B9EFC3FFC1\x7d"

/-- The settings of project files. -/
structure RenderOptions where
  targetFramework : String := "netstandard2.1"
  langVersion : String := "latest"
  outputPath : String := "Temp\\bin\\Debug\\"
  allowUnsafeBlocks : Bool := true
  projectTypeGuids : List String := [hostProjectType, csharpProjectType]
  referenceCollisions : CollisionMode := .keep
  deriving DecidableEq, Repr, Inhabited

/-- The settings as a document gives them. -/
structure OptionRecord (τ : Type := String) where
  targetFramework : Json τ
  langVersion : Json τ
  outputPath : Json τ
  allowUnsafeBlocks : Json τ
  projectTypeGuids : List (Json τ)
  referenceCollisions : CollisionMode
  deriving DecidableEq

namespace OptionRecord

section

variable {τ : Type} [DocumentText τ]

/-- Takes the settings of an object; one that is not given has its
default, and so have type GUIDs that are null. -/
def ofJson [DecidableEq τ] (value : Json τ) : Except Fault (OptionRecord τ) := do
  let defaults : RenderOptions := {}
  let text (name default : String) : Json τ :=
    (value.field? name).getD (.text (DocumentText.ofString default))
  let projectTypeGuids ← match value.field? "project_type_guids" with
    | none | some .null =>
      .ok (defaults.projectTypeGuids.map fun guid => .text (DocumentText.ofString guid))
    | some guids => guids.elements
  let referenceCollisions ← match value.field? "reference_collisions" with
    | none => .ok defaults.referenceCollisions
    | some mode => CollisionMode.ofJson mode
  return {
    targetFramework := text "target_framework" defaults.targetFramework
    langVersion := text "lang_version" defaults.langVersion
    outputPath := text "output_path" defaults.outputPath
    allowUnsafeBlocks := (value.field? "allow_unsafe_blocks").getD
      (.bool defaults.allowUnsafeBlocks)
    projectTypeGuids
    referenceCollisions }

/-- What the settings mean, read in the order in which a project file
shows them. A setting that is no text means nothing. -/
def options (r : OptionRecord τ) : Except Fault RenderOptions := do
  let targetFramework ← r.targetFramework.asText .value
  let outputPath ← r.outputPath.asText .value
  let langVersion ← r.langVersion.asText .value
  let projectTypeGuids ← Json.asItems 0 r.projectTypeGuids
  return {
    targetFramework
    langVersion
    outputPath
    allowUnsafeBlocks := r.allowUnsafeBlocks.isGiven
    projectTypeGuids
    referenceCollisions := r.referenceCollisions }

end

/-- The settings as a document states them. -/
def toJson (r : OptionRecord) : Json := .object [
  ("target_framework", r.targetFramework),
  ("lang_version", r.langVersion),
  ("output_path", r.outputPath),
  ("allow_unsafe_blocks", r.allowUnsafeBlocks),
  ("project_type_guids", .array r.projectTypeGuids),
  ("reference_collisions", .text r.referenceCollisions.name)]

end OptionRecord

end IdeProjects
