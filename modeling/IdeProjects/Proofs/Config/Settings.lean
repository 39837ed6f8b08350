import IdeProjects.Proofs.Config.Grammar
import IdeProjects.Proofs.Path.Coded

/-!
# `IdeProjects.Proofs.Config.Settings`: what a configuration sets

`Sets base directory value record` says what each setting of a configuration
is. Ten of them are as given or have their defaults, whatever the other
fields are (`IsGivenOr`); the two paths are the places that are named, read
from the directory of the document as if it were the working directory.
That leaves no freedom (`Sets.unique`).

The reading has no check of its own. It takes fields for what the schema has
let through, and tells a field that is not there from one that is empty in
three different ways. `ConfigRecord.ofJson_accepts` says what becomes of that:
the documents that are no configuration are refused, and a configuration is
read and sets what it says, but for one fault that the schema does not see. A
path with half of a surrogate pair that stands for no byte (`NamesEncodable`)
meets the grammar and has no place, and no refusal tells the user so
(`ConfigRecord.ofJson_half_in_path`). The null character, the one other thing
that no file has in its name, is left out by `NamesPlaces`. The directory of
the document is one that the host has found, so its name has no such half.

What is read means something for a run (`SyncConfig.exists_ofCoded_iff`).
-/

set_option autoImplicit false

namespace IdeProjects

/-! ### What is set -/

namespace Json

/-- A setting in one of the sections of a configuration. -/
def setting? (value : Coded) (sectionName name : String) : Option Coded :=
  (value.field? sectionName).bind (·.field? name)

/-- What is written for a setting if it is given, and its default if not. -/
def IsGivenOr {α : Type} (written : α → Coded) (default : α) (given? : Option Coded) (a : α) :
    Prop :=
  match given? with
  | some part => part = written a
  | none => a = default

/-- A part of a record is what is written for a setting, which is as given or
has its default. -/
def IsSetting {α : Type} (written : α → Coded) (default : α) (given? : Option Coded)
    (part : Coded) : Prop :=
  ∃ a, part = written a ∧ IsGivenOr written default given? a

/-- A text in a record is as given, or the default. -/
abbrev IsTextSetting (default : String) (given? : Option Coded) (part : Coded) : Prop :=
  IsSetting .text (.ofString default) given? part

end Json

open Json

/-- The place that a field names, read from the directory; none for no field. -/
def IsNamedPlace (base : Location) (directory : Path) (given? : Option Coded)
    (place? : Option (Location CodeText)) : Prop :=
  match given? with
  | some part => ∃ t, part = .text t ∧
    place? = some ((Path.ofCodes t).locate (directory.coded.locate (base.map .ofString)))
  | none => place? = none

/-- The layout is as given by a section of a document. -/
structure SetsLayout (given? : String → Option Coded) (layout : LayoutRecord CodeText) :
    Prop where
  managedDir : IsTextSetting "Managed" (given? "managed_dir") layout.managedDir
  rootPattern : IsTextSetting "Unity*.dll" (given? "root_pattern") layout.rootPattern
  moduleDir : IsTextSetting "UnityEngine" (given? "module_dir") layout.moduleDir
  modulePattern :
    IsTextSetting "UnityEngine.*.dll" (given? "module_pattern") layout.modulePattern

/-- The settings of project files are as given by a section of a document. -/
structure SetsProject (given? : String → Option Coded) (options : OptionRecord CodeText) :
    Prop where
  targetFramework :
    IsTextSetting "netstandard2.1" (given? "target_framework") options.targetFramework
  langVersion : IsTextSetting "latest" (given? "lang_version") options.langVersion
  outputPath : IsTextSetting "Temp\\bin\\Debug\\" (given? "output_path") options.outputPath
  allowUnsafeBlocks :
    IsSetting .bool true (given? "allow_unsafe_blocks") options.allowUnsafeBlocks
  projectTypeGuids : IsSetting .ofTexts ([hostProjectType, csharpProjectType].map .ofString)
    (given? "project_type_guids") (.array options.projectTypeGuids)
  referenceCollisions : IsGivenOr (fun mode => .text (.ofString (CollisionMode.name mode))) .keep
    (given? "reference_collisions") options.referenceCollisions

/-- A record is what a document in a directory sets. -/
structure Sets (base : Location) (directory : Path) (value : Coded) (record : ConfigRecord) :
    Prop where
  installRoot : IsNamedPlace base directory (value.field? "install_root") record.installRoot
  outputDir : IsNamedPlace base directory (value.field? "output_dir") record.outputDir
  layout : SetsLayout (value.setting? "layout") record.layout
  project : SetsProject (value.setting? "project") record.project

/-! ### Nothing is left open -/

section

variable {α : Type} {written : α → Coded} {default : α} {given? : Option Coded}

/-- A setting has one value, if different values are written differently. -/
theorem Json.IsGivenOr.unique {a b : α} (hwritten : ∀ a b, written a = written b → a = b)
    (ha : IsGivenOr written default given? a) (hb : IsGivenOr written default given? b) :
    a = b := by
  cases given? with
  | none => exact ha.trans hb.symm
  | some part => exact hwritten a b (ha.symm.trans hb)

/-- What is written for a setting is what is given, or what is written for the
default. -/
theorem Json.IsSetting.eq {part : Coded} (h : IsSetting written default given? part) :
    part = given?.getD (written default) := by
  obtain ⟨a, rfl, ha⟩ := h
  cases given? with
  | none => exact congrArg written ha
  | some given => exact ha.symm

/-- There is one value that a setting can have. -/
theorem Json.IsSetting.unique {part other : Coded} (h : IsSetting written default given? part)
    (h' : IsSetting written default given? other) : part = other :=
  h.eq.trans h'.eq.symm

/-- A field names one place. -/
theorem IsNamedPlace.unique {base : Location} {directory : Path}
    {p q : Option (Location CodeText)} (hp : IsNamedPlace base directory given? p)
    (hq : IsNamedPlace base directory given? q) : p = q := by
  cases given? with
  | none => exact hp.trans hq.symm
  | some part =>
      obtain ⟨t, rfl, rfl⟩ := hp
      obtain ⟨_, ht, rfl⟩ := hq
      cases ht
      rfl

end

/-- A collision mode is found by its name. -/
theorem CollisionMode.ofName?_name (m : CollisionMode) : ofName? m.name = some m := by
  cases m <;> rfl

/-- No two collision modes are written alike. -/
theorem CollisionMode.eq_of_text_name {m n : CollisionMode}
    (h : (Json.text (.ofString m.name) : Coded) = .text (.ofString n.name)) : m = n := by
  have hname : m.name = n.name := CodeText.ofString_injective (Json.text.inj h)
  exact Option.some.inj ((ofName?_name m).symm.trans (hname ▸ ofName?_name n))

/-- There is one layout for the given settings. -/
theorem SetsLayout.unique {given? : String → Option Coded} {l k : LayoutRecord CodeText}
    (hl : SetsLayout given? l) (hk : SetsLayout given? k) : l = k := by
  rw [LayoutRecord.mk.injEq]
  exact ⟨hl.managedDir.unique hk.managedDir, hl.rootPattern.unique hk.rootPattern,
    hl.moduleDir.unique hk.moduleDir, hl.modulePattern.unique hk.modulePattern⟩

/-- There is one set of project settings for the given ones. -/
theorem SetsProject.unique {given? : String → Option Coded} {o r : OptionRecord CodeText}
    (ho : SetsProject given? o) (hr : SetsProject given? r) : o = r := by
  rw [OptionRecord.mk.injEq]
  exact ⟨ho.targetFramework.unique hr.targetFramework, ho.langVersion.unique hr.langVersion,
    ho.outputPath.unique hr.outputPath, ho.allowUnsafeBlocks.unique hr.allowUnsafeBlocks,
    Json.array.inj (ho.projectTypeGuids.unique hr.projectTypeGuids),
    ho.referenceCollisions.unique (fun _ _ => CollisionMode.eq_of_text_name)
      hr.referenceCollisions⟩

/-- A document sets one record. -/
theorem Sets.unique {base : Location} {directory : Path} {value : Coded} {r s : ConfigRecord}
    (hr : Sets base directory value r) (hs : Sets base directory value s) : r = s := by
  rw [ConfigRecord.mk.injEq]
  exact ⟨hr.installRoot.unique hs.installRoot, hr.outputDir.unique hs.outputDir,
    hr.layout.unique hs.layout, hr.project.unique hs.project⟩

/-! ### Reading the sections -/

/-- A field of some form has any form that follows from it. -/
theorem Json.OptionalField.imp {form form' : Coded → Prop} {value : Coded} {name : String}
    (h : OptionalField form value name) (himp : ∀ part, form part → form' part) :
    OptionalField form' value name :=
  fun part hpart => himp part (h part hpart)

/-- A text that is not empty is a text. -/
theorem Json.IsSomeText.isText {value : Coded} (h : value.IsSomeText) : value.IsText :=
  h.imp fun _ hs => hs.1

/-- A field that has the form in which a setting is written, or its default
in that form, is what is written for the setting. -/
theorem isSetting_getD {α : Type} (written : α → Coded) (default : α) {value : Coded}
    {name : String} (h : OptionalField (fun part => ∃ a, part = written a) value name) :
    IsSetting written default (value.field? name)
      ((value.field? name).getD (written default)) := by
  unfold OptionalField at h
  cases hfield : value.field? name with
  | none => exact ⟨default, rfl, rfl⟩
  | some part =>
      obtain ⟨a, ha⟩ := h part hfield
      exact ⟨a, ha, ha⟩

/-- A layout is read as it is given. -/
theorem setsLayout_ofJson {value : Coded} (h : IsLayout value) :
    SetsLayout (value.field? ·) (LayoutRecord.ofJson value) := by
  have htext (default name : String) (hname : OptionalField IsSomeText value name) :
      IsTextSetting default (value.field? name)
        ((value.field? name).getD (.text (.ofString default))) :=
    isSetting_getD .text _ (hname.imp fun _ => IsSomeText.isText)
  exact ⟨htext _ _ h.managedDir, htext _ _ h.rootPattern, htext _ _ h.moduleDir,
    htext _ _ h.modulePattern⟩

/-- The type GUIDs and the collision mode are taken without a fault, the type
GUIDs also if an empty list of them is given. -/
theorem optionRecord_ofJson {value : Coded} {guids : List CodeText} {mode : CollisionMode}
    (hguids : IsGivenOr .ofTexts ([hostProjectType, csharpProjectType].map .ofString)
      (value.field? "project_type_guids") guids)
    (hmode : IsGivenOr (fun mode => .text (.ofString (CollisionMode.name mode))) .keep
      (value.field? "reference_collisions") mode) :
    OptionRecord.ofJson value = .ok {
      targetFramework :=
        (value.field? "target_framework").getD (.text (.ofString "netstandard2.1"))
      langVersion := (value.field? "lang_version").getD (.text (.ofString "latest"))
      outputPath := (value.field? "output_path").getD (.text (.ofString "Temp\\bin\\Debug\\"))
      allowUnsafeBlocks := (value.field? "allow_unsafe_blocks").getD (.bool true)
      projectTypeGuids := guids.map .text
      referenceCollisions := mode } := by
  -- Two of the settings are converted. The others are taken as they are.
  have hnamed : CollisionMode.ofJson (.text (CodeText.ofString mode.name)) = .ok mode := by
    have hrepaired : DocumentText.repaired (CodeText.ofString mode.name) = mode.name :=
      CodeText.repaired_ofString mode.name
    simp [CollisionMode.ofJson, Json.text?, hrepaired, CollisionMode.ofName?_name]
  unfold OptionRecord.ofJson
  -- Each of the two is given or has its default.
  cases hgiven : value.field? "project_type_guids" <;>
    cases hgiven' : value.field? "reference_collisions" <;>
    rw [hgiven] at hguids <;> rw [hgiven'] at hmode <;> cases hguids <;> cases hmode
  case none.none => rfl
  case none.some => exact congrArg (· >>= _) hnamed
  case some.none => rfl
  case some.some => exact congrArg (· >>= _) hnamed

/-- The settings of project files are read without a fault, and as they are
given. -/
theorem exists_project {value : Coded} (h : IsProject value) :
    ∃ options, OptionRecord.ofJson value = .ok options ∧
      SetsProject (value.field? ·) options := by
  have hmodeName : ∀ part : Coded, IsModeName part →
      ∃ mode : CollisionMode, part = .text (.ofString mode.name) := by
    rintro part (rfl | rfl)
    · exact ⟨.keep, rfl⟩
    · exact ⟨.overwrite, rfl⟩
  obtain ⟨guids, _, hguids⟩ := isSetting_getD .ofTexts
    ([hostProjectType, csharpProjectType].map CodeText.ofString)
    (h.projectTypeGuids.imp fun _ htexts => htexts.imp fun _ hs => hs.1)
  obtain ⟨mode, _, hmode⟩ := isSetting_getD
    (fun mode => .text (CodeText.ofString (CollisionMode.name mode))) .keep
    (h.referenceCollisions.imp hmodeName)
  exact ⟨_, optionRecord_ofJson hguids hmode,
    isSetting_getD .text _ (h.targetFramework.imp fun _ => IsSomeText.isText),
    isSetting_getD .text _ (h.langVersion.imp fun _ => IsSomeText.isText),
    isSetting_getD .text _ h.outputPath, isSetting_getD .bool _ h.allowUnsafeBlocks,
    ⟨guids, rfl, hguids⟩, hmode⟩

/-! ### Reading the paths -/

/-- The paths that a document in a directory names have no null character. -/
def NamesPlaces (directory : Path) (value : Coded) : Prop :=
  ∀ name ∈ ["install_root", "output_dir"], ∀ t, value.field? name = some (.text t) →
    ∀ part ∈ (directory.coded.join (.ofCodes t)).parts, ¬ part.HasNull

/-- In the paths that a document names every half of a surrogate pair stands
for a byte. -/
def NamesEncodable (value : Coded) : Prop :=
  ∀ name ∈ ["install_root", "output_dir"], ∀ t, value.field? name = some (.text t) →
    t.IsEncodable

namespace ConfigRecord

section

variable {base : Location} {directory : Path} {value : Coded} {name : String}
  {place? : Option (Location CodeText)} {fault : Fault}

/-- A text that is not empty counts as given. -/
theorem place?_text {t : CodeText} (ht : t ≠ .ofString "") :
    ConfigRecord.place? base directory (some (.text t)) =
      (Path.resolveCoded base (directory.coded.join (.ofCodes t))).map some := by
  unfold ConfigRecord.place?
  split
  · rename_i hnone
    cases hnone
  · rename_i hempty
    cases hempty
    exact absurd rfl ht
  · rename_i heq
    cases heq
    rfl

/-- A path that is given is read as the place that it names if every half in
it stands for a byte, and fails for one that does not. -/
theorem place?_cases (base : Location) (hfield : OptionalField IsSomeText value name)
    (hnull : ∀ t, value.field? name = some (.text t) →
      ∀ part ∈ (directory.coded.join (.ofCodes t)).parts, ¬ part.HasNull) :
    ((∀ t, value.field? name = some (.text t) → t.IsEncodable) ∧
      ∃ place?, ConfigRecord.place? base directory (value.field? name) = .ok place? ∧
        IsNamedPlace base directory (value.field? name) place?) ∨
    ((∃ t, value.field? name = some (.text t) ∧ ¬ t.IsEncodable) ∧
      ∃ malformed, ConfigRecord.place? base directory (value.field? name) =
        .error (.encoding malformed)) := by
  unfold OptionalField at hfield
  cases hgiven : value.field? name with
  | none => exact Or.inl ⟨nofun, none, rfl, rfl⟩
  | some part =>
      obtain ⟨t, rfl, ht⟩ := hfield part hgiven
      rw [place?_text ht]
      have hnull' := hnull t hgiven
      have hparts := Path.isEncodable_join_iff directory t
      -- Either the host let every part pass, or the part that it turned down
      -- has a half or a null character.
      cases hplace : Path.resolveCoded base (directory.coded.join (.ofCodes t)) with
      | ok place =>
          obtain ⟨hasked, rfl⟩ := Path.resolveCoded_eq_ok_iff.mp hplace
          refine Or.inl ⟨?_, _, rfl, t, rfl, by rw [Path.locate_join]⟩
          rintro _ ⟨⟩
          exact hparts.mp fun part hpart => (hasked part hpart).1
      | error fault =>
          obtain ⟨part, hpart, ⟨hhalf, malformed, rfl⟩ | ⟨_, hbad, _⟩⟩ :=
            Path.resolveCoded_error hplace
          · exact Or.inr ⟨⟨t, rfl, fun h => hhalf (hparts.mpr h part hpart)⟩, malformed, rfl⟩
          · exact absurd hbad (hnull' part hpart)

end

end ConfigRecord

/-! ### The whole document -/

/-- An object without fields is a layout, of defaults only. -/
theorem isLayout_empty : IsLayout (.object [] : Coded) :=
  ⟨⟨[], rfl, nofun⟩, nofun, nofun, nofun, nofun⟩

/-- It also gives project settings, of defaults only. -/
theorem isProject_empty : IsProject (.object [] : Coded) :=
  ⟨⟨[], rfl, nofun⟩, nofun, nofun, nofun, nofun, nofun, nofun⟩

/-- A section that is not there is read as an empty one. -/
theorem field?_section (value : Coded) (sectionName : String) :
    (((value.field? sectionName).getD (.object [])).field? ·) = value.setting? sectionName := by
  funext name
  unfold Json.setting?
  cases value.field? sectionName <;> rfl

/-- A part of a configuration has its form also where it is missing, for the
empty object that stands for it has. -/
theorem Json.OptionalField.getD {form : Coded → Prop} {value : Coded} {name : String}
    (h : OptionalField form value name) (hempty : form (.object [])) :
    form ((value.field? name).getD (.object [])) := by
  unfold OptionalField at h
  cases hfield : value.field? name with
  | none => exact hempty
  | some part => exact h part hfield

namespace ConfigRecord

section

variable {base : Location} {directory : Path} {value : Coded}

/-- A document that is no configuration is refused. -/
theorem ofJson_refused (base : Location) (directory : Path) (h : ¬ IsConfiguration value) :
    ∃ r, ofJson base directory value = .error (.refusal r) := by
  cases hvalid : validate .config value with
  | ok _ => exact absurd (validate_config_eq_ok_iff.mp hvalid) h
  | error fault =>
      obtain ⟨violation, rfl⟩ := validate_error hvalid
      refine ⟨.violates .config violation, ?_⟩
      rw [ofJson, hvalid]
      rfl

/-- A configuration is read, and it sets what it says, or one of its paths has
a half without a byte. -/
theorem ofJson_cases (base : Location) (h : IsConfiguration value)
    (hpaths : NamesPlaces directory value) :
    (NamesEncodable value ∧
      ∃ record, ofJson base directory value = .ok record ∧ Sets base directory value record) ∨
    (¬ NamesEncodable value ∧
      ∃ malformed, ofJson base directory value = .error (.encoding malformed)) := by
  have hvalid := validate_config_eq_ok_iff.mpr h
  obtain ⟨project, hproject, hproject'⟩ := exists_project (h.project.getD isProject_empty)
  have hlayout := setsLayout_ofJson (h.layout.getD isLayout_empty)
  rw [field?_section] at hlayout hproject'
  -- The install root is resolved first, so a half in it hides one in the
  -- output directory.
  rcases place?_cases base h.installRoot (hpaths _ (by simp)) with
    ⟨hroot, installRoot, hroot', hroot''⟩ | ⟨⟨t, ht, hhalf⟩, malformed, hroot'⟩
  · rcases place?_cases base h.outputDir (hpaths _ (by simp)) with
      ⟨houtput, outputDir, houtput', houtput''⟩ | ⟨⟨t, ht, hhalf⟩, malformed, houtput'⟩
    · have hnames : NamesEncodable value := by
        simp only [NamesEncodable, List.forall_mem_cons]
        exact ⟨hroot, houtput, nofun⟩
      refine Or.inl ⟨hnames, ⟨installRoot, outputDir, _, project⟩, ?_, hroot'', houtput'',
        hlayout, hproject'⟩
      rw [ofJson, hvalid, hroot', houtput', hproject]
      rfl
    · refine Or.inr ⟨fun hnames => hhalf (hnames _ (by simp) t ht), malformed, ?_⟩
      rw [ofJson, hvalid, hroot', houtput']
      rfl
  · refine Or.inr ⟨fun hnames => hhalf (hnames _ (by simp) t ht), malformed, ?_⟩
    rw [ofJson, hvalid, hroot']
    rfl

/-- What becomes of a document that lies in a directory. -/
structure Accepts (base : Location) (directory : Path) (value : Coded) : Prop where
  /-- It is read as what it sets if it is a configuration in whose paths every
  half of a pair stands for a byte. -/
  reads : ∀ record, ofJson base directory value = .ok record ↔
    IsConfiguration value ∧ NamesEncodable value ∧ Sets base directory value record
  /-- Such a configuration is read. -/
  accepts : (∃ record, ofJson base directory value = .ok record) ↔
    IsConfiguration value ∧ NamesEncodable value
  /-- What is no configuration is refused. -/
  refuses : (∃ r, ofJson base directory value = .error (.refusal r)) ↔ ¬ IsConfiguration value
  /-- A configuration with another half in a path ends in a fault. -/
  fails : (∃ malformed, ofJson base directory value = .error (.encoding malformed)) ↔
    IsConfiguration value ∧ ¬ NamesEncodable value
  /-- There is no other fault. -/
  fault : ∀ fault, ofJson base directory value = .error fault →
    (∃ r, fault = .refusal r) ∨ ∃ malformed, fault = .encoding malformed

/-- Exactly the documents that are no configuration are refused. A
configuration is read as what it says: the ten settings of layout and project
files as given or with their defaults, the two paths as the places that they
name, unless a path has half of a surrogate pair that stands for no byte. -/
theorem ofJson_accepts (hpaths : NamesPlaces directory value) :
    Accepts base directory value := by
  by_cases h : IsConfiguration value
  · rcases ofJson_cases base h hpaths with
      ⟨hnames, record, hread, hsets⟩ | ⟨hnames, malformed, hread⟩
    · constructor <;> rw [hread]
      · refine fun other => ⟨?_, fun ⟨_, _, hother⟩ => by rw [hsets.unique hother]⟩
        rintro ⟨⟩
        exact ⟨h, hnames, hsets⟩
      · exact iff_of_true ⟨record, rfl⟩ ⟨h, hnames⟩
      · exact iff_of_false nofun (not_not_intro h)
      · exact iff_of_false nofun fun hnot => hnot.2 hnames
      · nofun
    · constructor <;> rw [hread]
      · exact fun other => iff_of_false nofun fun hother => hnames hother.2.1
      · exact iff_of_false nofun fun hother => hnames hother.2
      · exact iff_of_false nofun (not_not_intro h)
      · exact iff_of_true ⟨malformed, rfl⟩ ⟨h, hnames⟩
      · rintro _ ⟨⟩
        exact Or.inr ⟨malformed, rfl⟩
  · obtain ⟨r, hread⟩ := ofJson_refused base directory h
    constructor <;> rw [hread]
    · exact fun other => iff_of_false nofun fun hother => h hother.1
    · exact iff_of_false nofun fun hother => h hother.1
    · exact iff_of_true ⟨r, rfl⟩ h
    · exact iff_of_false nofun fun hother => h hother.1
    · rintro _ ⟨⟩
      exact Or.inl ⟨r, rfl⟩

end

/-- Settings that are given and empty are no defaults, a path is read from the
directory of the document, and half of a pair does no harm outside of paths. -/
theorem ofJson_accepts_empty_settings :
    let directory : Path := ⟨.slash, ["home", "app"]⟩
    let value : Coded := .object [
      (.ofString "output_dir", .text (.ofString "../out")),
      (.ofString "layout", .object []),
      (.ofString "project", .object [
        (.ofString "lang_version", .text ⟨[.half 0]⟩),
        (.ofString "output_path", .text (.ofString "")),
        (.ofString "allow_unsafe_blocks", .bool false),
        (.ofString "project_type_guids", .array []),
        (.ofString "reference_collisions", .text (.ofString "overwrite"))])]
    let record : ConfigRecord := {
      installRoot := none
      outputDir := some [.ofString "home", .ofString "out"]
      layout := {
        managedDir := .text (.ofString "Managed")
        rootPattern := .text (.ofString "Unity*.dll")
        moduleDir := .text (.ofString "UnityEngine")
        modulePattern := .text (.ofString "UnityEngine.*.dll") }
      project := {
        targetFramework := .text (.ofString "netstandard2.1")
        langVersion := .text ⟨[.half 0]⟩
        outputPath := .text (.ofString "")
        allowUnsafeBlocks := .bool false
        projectTypeGuids := []
        referenceCollisions := .overwrite } }
    NamesPlaces directory value ∧ IsConfiguration value ∧ NamesEncodable value ∧
      ofJson ["work"] directory value = .ok record := by
  intro directory value record
  have hpath : ∀ name ∈ ["install_root", "output_dir"], ∀ t,
      value.field? name = some (.text t) → t = .ofString "../out" := by
    intro name hname t ht
    simp only [List.mem_cons, List.not_mem_nil, or_false] at hname
    rcases hname with rfl | rfl
    · cases ht
    · cases ht
      rfl
  have hpaths : NamesPlaces directory value := by
    intro name hname t ht
    rw [hpath name hname t ht]
    unfold CodeText.HasNull
    decide
  have hnames : NamesEncodable value := by
    intro name hname t ht
    rw [hpath name hname t ht]
    exact CodeText.isEncodable_ofString _
  have hvalue : IsConfiguration value := Schema.config_eq_nil_iff.mp rfl
  have hsets : Sets ["work"] directory value record :=
    ⟨rfl, ⟨.ofString "../out", rfl, by decide⟩,
      ⟨⟨_, rfl, rfl⟩, ⟨_, rfl, rfl⟩, ⟨_, rfl, rfl⟩, ⟨_, rfl, rfl⟩⟩,
      ⟨⟨_, rfl, rfl⟩, ⟨_, rfl, rfl⟩, ⟨_, rfl, rfl⟩, ⟨_, rfl, rfl⟩, ⟨[], rfl, rfl⟩, rfl⟩⟩
  exact ⟨hpaths, hvalue, hnames,
    ((ofJson_accepts hpaths).reads record).mpr ⟨hvalue, hnames, hsets⟩⟩

/-- A document whose output directory is named by half of a pair: it is a
configuration and has no null character, and reading it ends in a fault that
is no refusal. -/
theorem ofJson_half_in_path :
    let value : Coded := .object [(.ofString "output_dir", .text ⟨[.char '/', .half 0]⟩)]
    Json.readCoded "\x7b\"output_dir\": \"/\\ud800\"\x7d".toList = .ok value ∧
      IsConfiguration value ∧ NamesPlaces ⟨.slash, ["home", "app"]⟩ value ∧
      ofJson [] ⟨.slash, ["home", "app"]⟩ value = .error (.encoding ⟨1, [], .halves [0]⟩) := by
  intro value
  refine ⟨by decide +kernel, Schema.config_eq_nil_iff.mp rfl, ?_, by decide +kernel⟩
  intro name hname t ht
  simp only [List.mem_cons, List.not_mem_nil, or_false] at hname
  rcases hname with rfl | rfl
  · cases ht
  · cases ht
    unfold CodeText.HasNull
    decide

end ConfigRecord

/-! ### What a configuration means for a run -/

/-- Settings that a document sets are of the kinds that a run needs. -/
theorem Sets.exists_config {base : Location} {directory : Path} {value : Coded}
    {record : ConfigRecord} (h : Sets base directory value record) :
    ∃ config, record.config = .ok config := by
  obtain ⟨framework, hframework, _⟩ := h.project.targetFramework
  obtain ⟨version, hversion, _⟩ := h.project.langVersion
  obtain ⟨path, hpath, _⟩ := h.project.outputPath
  obtain ⟨guids, hguids, _⟩ := h.project.projectTypeGuids
  have hoptions : ∃ options, record.project.options = .ok options := by
    rw [OptionRecord.options, hframework, hversion, hpath, Json.array.inj hguids, asItems_texts]
    exact ⟨_, rfl⟩
  obtain ⟨options, hoptions⟩ := hoptions
  rw [ConfigRecord.config, hoptions]
  exact ⟨_, rfl⟩

/-- What is read of a configuration means something for a run, and nothing
else is read. -/
theorem SyncConfig.exists_ofCoded_iff {base : Location} {directory : Path} {value : Coded}
    (hpaths : NamesPlaces directory value) :
    (∃ config, ofCoded base directory value = .ok config) ↔
      IsConfiguration value ∧ NamesEncodable value := by
  have hread := (ConfigRecord.ofJson_accepts hpaths : ConfigRecord.Accepts base directory value)
  rw [← hread.accepts]
  constructor
  · rintro ⟨config, hconfig⟩
    cases hrecord : ConfigRecord.ofJson base directory value with
    | ok record => exact ⟨record, rfl⟩
    | error fault =>
        rw [ofCoded, hrecord] at hconfig
        cases hconfig
  · rintro ⟨record, hrecord⟩
    obtain ⟨config, hconfig⟩ := ((hread.reads record).mp hrecord).2.2.exists_config
    rw [ofCoded, hrecord]
    exact ⟨config, hconfig⟩

/-- The place of a text is that of its path, read from the directory of the
configuration. -/
theorem SyncConfig.place?_text {base : Location} {directory : Path} {s : String} (hs : s ≠ "") :
    SyncConfig.place? base directory (some (.text s)) =
      (Path.resolve base (directory.relativeTo s)).map some := by
  unfold SyncConfig.place?
  split
  · rename_i hnone
    cases hnone
  · rename_i hempty
    cases hempty
    exact absurd rfl hs
  · rename_i heq
    cases heq
    rfl

/-- A path of characters names the same place in a configuration as in any
other document. -/
theorem ConfigRecord.place?_coded (base : Location) (directory : Path) (field? : Option Json) :
    ConfigRecord.place? base directory (field?.map Json.coded) =
      (SyncConfig.place? base directory field?).map (·.map (·.map .ofString)) := by
  -- An absolute text takes the place of the directory, on both sides
  -- alike.
  have hjoin : ∀ s, directory.coded.join (.ofCodes (.ofString s)) =
      (directory.relativeTo s).coded := by
    intro s
    rw [Path.ofCodes_ofString, Path.relativeTo, Path.join, Path.join]
    have habs : (Path.ofText s).coded.isAbsolute = (Path.ofText s).isAbsolute := rfl
    rw [habs]
    split
    · rfl
    · simp [Path.coded]
  cases field? with
  | none => rfl
  | some part =>
      cases part with
      | text s =>
          by_cases hs : s = ""
          · subst hs
            rfl
          · have ht : CodeText.ofString s ≠ .ofString "" :=
              fun h => hs (CodeText.ofString_injective h)
            rw [SyncConfig.place?_text hs]
            refine (place?_text ht).trans ?_
            rw [hjoin, Path.resolveCoded_coded]
            cases Path.resolve base (directory.relativeTo s) <;> rfl
      | _ => rfl

end IdeProjects
