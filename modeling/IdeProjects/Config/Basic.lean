import IdeProjects.Config.Layout
import IdeProjects.Config.Options
import IdeProjects.Path.Coded

/-!
# `IdeProjects.Config.Basic`: the configuration

A configuration may name the install root, the output directory, the
layout of the installation and the settings of project files. Paths in
it are read from the directory of the configuration file and kept as
places.

`ConfigRecord` is what a document gives, with all codes of its texts.
`SyncConfig` is what that means for a run: a run works on texts of
characters, and takes a text with halves of pairs for its repaired form.
-/

set_option autoImplicit false

namespace IdeProjects

namespace Path

/-- The path `value` writes, read from the directory `root`. -/
def relativeTo (root : Path) (value : String) : Path := root.join (ofText value)

/-- The place of a path, read by its text. No file has a null character
in its name, so a path with one has no place. -/
def resolve (base : Location) (p : Path) : Except Fault Location :=
  if p.hasNull then .error .nullCharacter else .ok (p.locate base)

end Path

/-- What a configuration means for a run. -/
structure SyncConfig where
  installRoot : Option Location := none
  outputDir : Option Location := none
  layout : ScanLayout := {}
  project : RenderOptions := {}
  deriving DecidableEq, Repr, Inhabited

namespace SyncConfig

/-- The place a field names, if it names one; an empty text does not. -/
def place? (base : Location) (directory : Path) (field? : Option Json) :
    Except Fault (Option Location) :=
  match field?.bind Json.text? with
  | none | some "" => .ok none
  | some value => (Path.resolve base (directory.relativeTo value)).map some

end SyncConfig

/-- A configuration as its document gives it. -/
structure ConfigRecord where
  installRoot : Option (Location CodeText)
  outputDir : Option (Location CodeText)
  layout : LayoutRecord CodeText
  project : OptionRecord CodeText
  deriving DecidableEq

namespace ConfigRecord

/-- The place a field names, if it names one; an empty text does not. -/
def place? (base : Location) (directory : Path) (field? : Option Json.Coded) :
    Except Fault (Option (Location CodeText)) :=
  match field?.bind Json.text? with
  | none | some ⟨[]⟩ => .ok none
  | some t => (Path.resolveCoded base (directory.coded.join (.ofCodes t))).map some

/-- Reads a configuration document that lies in `directory`, for a run
in the working directory `base`. -/
def ofJson (base : Location) (directory : Path) (value : Json.Coded) :
    Except Fault ConfigRecord := do
  validate .config value
  let installRoot ← place? base directory (value.field? "install_root")
  let outputDir ← place? base directory (value.field? "output_dir")
  let project ← OptionRecord.ofJson ((value.field? "project").getD (.object []))
  return {
    installRoot
    outputDir
    layout := LayoutRecord.ofJson ((value.field? "layout").getD (.object []))
    project }

/-- What the configuration means for a run. -/
def config (r : ConfigRecord) : Except Fault SyncConfig := do
  let project ← r.project.options
  return {
    installRoot := r.installRoot.map (·.map CodeText.repaired)
    outputDir := r.outputDir.map (·.map CodeText.repaired)
    layout := r.layout.layout
    project }

end ConfigRecord

/-- What a configuration document in `directory` means for a run in the
working directory `base`. -/
def SyncConfig.ofCoded (base : Location) (directory : Path) (value : Json.Coded) :
    Except Fault SyncConfig := do
  (← ConfigRecord.ofJson base directory value).config

/-- What a configuration without halves of pairs means for a run. -/
def SyncConfig.ofJson (base : Location) (directory : Path) (value : Json) :
    Except Fault SyncConfig :=
  ofCoded base directory value.coded

end IdeProjects
