import IdeProjects.Proofs.Json.Coded
import IdeProjects.Proofs.Schema.Rules

/-!
# `IdeProjects.Proofs.Config.Grammar`: which documents are configurations

`IsConfiguration value` says in terms of JSON values what a configuration
is: an object with no fields but the four known ones, all of them optional.
Two of them are objects of settings themselves, `IsLayout` and `IsProject`.

The schema objects to everything else (`config_eq_nil_iff`). It says less
than it seems to: a field may be there and empty, an empty text for the
output path or an empty list of type GUIDs, and what is read from it has to
be that and no default.

Nothing in this depends on how the texts of a document are kept: it is a
configuration with all its codes if and only if it is one after their repair
(`isConfiguration_repaired_iff`).
-/

set_option autoImplicit false

namespace IdeProjects

namespace Json

section

variable {τ : Type} [DocumentText τ]

/-- An object with no fields but the given ones. -/
def HasOnly (names : List String) (value : Json τ) : Prop :=
  ∃ fields, value = .object fields ∧
    ∀ field ∈ fields, ∃ name ∈ names, field.1 = DocumentText.ofString name

/-- A text. -/
def IsText (value : Json τ) : Prop := ∃ s, value = .text s

/-- A text that is not empty. -/
def IsSomeText (value : Json τ) : Prop := ∃ s, value = .text s ∧ s ≠ DocumentText.ofString ""

/-- A list of texts, none of them empty. -/
def AreSomeTexts (value : Json τ) : Prop :=
  ∃ texts : List τ, value = .ofTexts texts ∧ ∀ s ∈ texts, s ≠ DocumentText.ofString ""

/-- A truth value. -/
def IsTruthValue (value : Json τ) : Prop := ∃ b, value = .bool b

/-- The name of a collision mode. -/
def IsModeName (value : Json τ) : Prop :=
  value = .text (DocumentText.ofString "keep") ∨ value = .text (DocumentText.ofString "overwrite")

/-- The texts of a list of texts can be joined. -/
theorem asItems_texts (index : Nat) (texts : List τ) :
    asItems index (texts.map .text) = .ok (texts.map DocumentText.repaired) := by
  induction texts generalizing index with
  | nil => rfl
  | cons t rest ih =>
      rw [List.map_cons, asItems, ih]
      rfl

/-- A field that is there has a form. -/
def OptionalField [DecidableEq τ] (form : Json τ → Prop) (value : Json τ) (name : String) : Prop :=
  ∀ part, value.field? name = some part → form part

end

end Json

open Json

section

variable {τ : Type} [DecidableEq τ] [DocumentText τ]

/-- The layout of an installation. -/
@[mk_iff]
structure IsLayout (value : Json τ) : Prop where
  only : HasOnly ["managed_dir", "root_pattern", "module_dir", "module_pattern"] value
  managedDir : OptionalField IsSomeText value "managed_dir"
  rootPattern : OptionalField IsSomeText value "root_pattern"
  moduleDir : OptionalField IsSomeText value "module_dir"
  modulePattern : OptionalField IsSomeText value "module_pattern"

/-- The settings of project files. -/
@[mk_iff]
structure IsProject (value : Json τ) : Prop where
  only : HasOnly ["target_framework", "lang_version", "output_path", "allow_unsafe_blocks",
    "project_type_guids", "reference_collisions"] value
  targetFramework : OptionalField IsSomeText value "target_framework"
  langVersion : OptionalField IsSomeText value "lang_version"
  /-- This text may be empty. -/
  outputPath : OptionalField IsText value "output_path"
  allowUnsafeBlocks : OptionalField IsTruthValue value "allow_unsafe_blocks"
  projectTypeGuids : OptionalField AreSomeTexts value "project_type_guids"
  referenceCollisions : OptionalField IsModeName value "reference_collisions"

/-- A configuration. -/
@[mk_iff]
structure IsConfiguration (value : Json τ) : Prop where
  only : HasOnly ["install_root", "output_dir", "layout", "project"] value
  installRoot : OptionalField IsSomeText value "install_root"
  outputDir : OptionalField IsSomeText value "output_dir"
  layout : OptionalField IsLayout value "layout"
  project : OptionalField IsProject value "project"

/-! ### The schemas -/

namespace Schema

variable {value : Json τ}

omit [DecidableEq τ] in
/-- The schema of a switch objects to all but truth values. -/
theorem kind_boolean_eq_nil_iff : kind .boolean value = [] ↔ value.IsTruthValue := by
  rw [kind_eq_nil_iff, ValueKind.holds_boolean_iff, IsTruthValue]

omit [DecidableEq τ] in
/-- The schema of the mode of collisions objects to all but the names of the
modes. -/
theorem among_collisionNames_eq_nil_iff : among collisionNames value = [] ↔ value.IsModeName := by
  rw [among_eq_nil_iff (by decide)]
  simp [collisionNames, IsModeName]

/-- The schema of layouts objects to all that is none. -/
theorem layout_eq_nil_iff : layout value = [] ↔ IsLayout value := by
  rw [layout, settings_eq_nil_iff (by simp), isLayout_iff]
  simp only [List.forall_mem_cons, List.not_mem_nil, false_implies, implies_true, and_true,
    someText_eq_nil_iff]
  rfl

/-- The schema of project settings objects to all that is none. -/
theorem project_eq_nil_iff : project value = [] ↔ IsProject value := by
  rw [project, settings_eq_nil_iff (by simp), isProject_iff]
  simp only [List.forall_mem_cons, List.not_mem_nil, false_implies, implies_true, and_true,
    someText_eq_nil_iff, text_eq_nil_iff, listOfTexts_eq_nil_iff, kind_boolean_eq_nil_iff,
    among_collisionNames_eq_nil_iff]
  rfl

/-- The schema of configurations objects to all that is none. -/
theorem config_eq_nil_iff : config value = [] ↔ IsConfiguration value := by
  rw [config, settings_eq_nil_iff (by simp), isConfiguration_iff]
  simp only [List.forall_mem_cons, List.not_mem_nil, false_implies, implies_true, and_true,
    someText_eq_nil_iff, layout_eq_nil_iff, project_eq_nil_iff]
  rfl

end Schema

/-- The configurations are the documents that pass their schema. It is said
for texts of any kind, so for a document before and after its repair. -/
theorem validate_config_eq_ok_iff {value : Json τ} :
    validate .config value = .ok () ↔ IsConfiguration value :=
  validate_eq_ok_iff.trans Schema.config_eq_nil_iff

end

/-! ### Repaired documents -/

section

variable {value : Coded} {names : List String}

/-- A repair keeps the names of an object among given ones, if these show no
sign of a repair. -/
theorem Json.hasOnly_repaired_iff (hnames : ∀ s ∈ names, '\uFFFD' ∉ s.toList) :
    HasOnly names value.repaired ↔ HasOnly names value := by
  cases value with
  | object fields =>
      have hsame : ∀ t : CodeText, (∃ name ∈ names, t.repaired = name) ↔
          ∃ name ∈ names, t = .ofString name := fun t =>
        exists_congr fun name => and_congr_right fun hname =>
          @DocumentText.repaired_eq_iff CodeText _ t name (hnames name hname)
      simp only [HasOnly, repaired_object, object.injEq, exists_eq_left', List.forall_mem_map]
      exact forall₂_congr fun field _ => hsame field.1
  | _ => exact iff_of_false nofun nofun

/-- A text is repaired to a text, and nothing else is. -/
theorem Json.isText_repaired_iff : IsText value.repaired ↔ IsText value := by
  cases value with
  | text t => exact iff_of_true ⟨_, rfl⟩ ⟨_, rfl⟩
  | _ => exact iff_of_false nofun nofun

/-- A text with a code is repaired to one with a character. -/
theorem Json.isSomeText_repaired_iff : IsSomeText value.repaired ↔ IsSomeText value := by
  cases value with
  | text t =>
      have hempty : t.repaired = "" ↔ t = .ofString "" :=
        @DocumentText.repaired_eq_iff CodeText _ t "" List.not_mem_nil
      have htext : (text t : Coded).repaired = .text t.repaired := rfl
      simp only [IsSomeText, htext, text.injEq, exists_eq_left', DocumentText.ofString_string]
      exact not_congr hempty
  | _ => exact iff_of_false nofun nofun

/-- A list of texts that are not empty, told by its items. -/
theorem Json.areSomeTexts_iff {τ : Type} [DecidableEq τ] [DocumentText τ] {value : Json τ} :
    AreSomeTexts value ↔ ∃ items, value = .array items ∧ ∀ item ∈ items, IsSomeText item := by
  have hitems : ∀ items : List (Json τ), (∀ item ∈ items, IsSomeText item) ↔
      ∃ texts : List τ, items = texts.map .text ∧ ∀ s ∈ texts, s ≠ DocumentText.ofString "" :=
    fun items => by simp only [IsSomeText, ← Schema.someText_eq_nil_iff, Schema.forall_someText_iff]
  simp only [hitems, AreSomeTexts, ofTexts]
  constructor
  · rintro ⟨texts, rfl, htexts⟩
    exact ⟨_, rfl, texts, rfl, htexts⟩
  · rintro ⟨_, rfl, texts, rfl, htexts⟩
    exact ⟨texts, rfl, htexts⟩

/-- A list is repaired item by item. -/
theorem Json.areSomeTexts_repaired_iff : AreSomeTexts value.repaired ↔ AreSomeTexts value := by
  rw [areSomeTexts_iff, areSomeTexts_iff]
  cases value with
  | array items =>
      simp only [repaired_array, array.injEq, exists_eq_left', List.forall_mem_map,
        isSomeText_repaired_iff]
  | _ => exact iff_of_false nofun nofun

/-- A truth value has no text to be repaired. -/
theorem Json.isTruthValue_repaired_iff : IsTruthValue value.repaired ↔ IsTruthValue value := by
  cases value with
  | bool b => exact iff_of_true ⟨_, rfl⟩ ⟨_, rfl⟩
  | _ => exact iff_of_false nofun nofun

/-- The names of the modes show no sign of a repair, so no other text is
repaired to one of them. -/
theorem Json.isModeName_repaired_iff : IsModeName value.repaired ↔ IsModeName value := by
  cases value with
  | text t =>
      have hname : ∀ name : String, '\uFFFD' ∉ name.toList →
          ((text t : Coded).repaired = .text name ↔ text t = .text (.ofString name)) :=
        fun name hname => by
          rw [text.injEq]
          exact Iff.trans ⟨text.inj, congrArg text⟩
            (@DocumentText.repaired_eq_iff CodeText _ t name hname)
      exact or_congr (hname "keep" (by decide)) (hname "overwrite" (by decide))
  | _ => exact iff_of_false (by rintro (h | h) <;> cases h) (by rintro (h | h) <;> cases h)

/-- A field has its form after the repair exactly if it has it before, when
that is so of its value. -/
theorem Json.optionalField_repaired_iff {form : Json → Prop} {form' : Coded → Prop}
    (hform : ∀ {part : Coded}, form part.repaired ↔ form' part) {name : String}
    (hname : '\uFFFD' ∉ name.toList) :
    OptionalField form value.repaired name ↔ OptionalField form' value name := by
  unfold OptionalField
  rw [field?_repaired hname]
  cases value.field? name with
  | none => exact iff_of_true nofun nofun
  | some part => simpa using hform

/-- The repair of a document makes no layout, and spoils none. -/
theorem isLayout_repaired_iff : IsLayout value.repaired ↔ IsLayout value := by
  have htext (name : String) (hname : '\uFFFD' ∉ name.toList) :
      OptionalField IsSomeText value.repaired name ↔ OptionalField IsSomeText value name :=
    optionalField_repaired_iff isSomeText_repaired_iff hname
  rw [isLayout_iff, isLayout_iff, hasOnly_repaired_iff (by decide), htext _ (by decide),
    htext _ (by decide), htext _ (by decide), htext _ (by decide)]

/-- The same of project settings. -/
theorem isProject_repaired_iff : IsProject value.repaired ↔ IsProject value := by
  rw [isProject_iff, isProject_iff, hasOnly_repaired_iff (by decide),
    optionalField_repaired_iff isSomeText_repaired_iff (by decide),
    optionalField_repaired_iff isSomeText_repaired_iff (by decide),
    optionalField_repaired_iff isText_repaired_iff (by decide),
    optionalField_repaired_iff isTruthValue_repaired_iff (by decide),
    optionalField_repaired_iff areSomeTexts_repaired_iff (by decide),
    optionalField_repaired_iff isModeName_repaired_iff (by decide)]

/-- The repair of its texts makes no configuration of a document, and takes none
for something else. -/
theorem isConfiguration_repaired_iff : IsConfiguration value.repaired ↔ IsConfiguration value := by
  rw [isConfiguration_iff, isConfiguration_iff, hasOnly_repaired_iff (by decide),
    optionalField_repaired_iff isSomeText_repaired_iff (by decide),
    optionalField_repaired_iff isSomeText_repaired_iff (by decide),
    optionalField_repaired_iff isLayout_repaired_iff (by decide),
    optionalField_repaired_iff isProject_repaired_iff (by decide)]

end

end IdeProjects
