import IdeProjects.Proofs.Schema.Rules
import IdeProjects.Unit.Snapshot

/-!
# `IdeProjects.Proofs.Unit.Grammar`: what an item of a snapshot states

`States item u` says in terms of JSON values when an item of a snapshot
states the unit `u`: its name can name a unit, and each list is either not
there or a list of texts that are not empty. `statedUnit?` computes the
unit (`statedUnit?_eq_some_iff`).

Two parts of the program have to agree with that. The schema objects to
an item just when it states no unit (`errors_unit_eq_nil_iff`), and the
fields of an item that states one can be taken as they are, since every
value that is met is a text (`ofJson_of_states`). So whatever the schema
lets through is read without a fault, and the unit that comes out is the
one that is stated.

The schema's rule for names is written with a pattern. `FindsPlainPattern`
says what a search for the pattern looks for, and `isPlain_iff_finds` that
a line feed at the end of a name, before which the pattern may end, makes
no difference.
-/

set_option autoImplicit false

namespace IdeProjects

/-! ### The grammar -/

/-- A text that can name a unit: it is one name in a directory, and neither
of the two names that every directory has. -/
def IsUnitName (s : String) : Prop :=
  s ≠ "" ∧ '/' ∉ s.toList ∧ '\\' ∉ s.toList ∧ s ≠ "." ∧ s ≠ ".."

instance (s : String) : Decidable (IsUnitName s) :=
  inferInstanceAs (Decidable (_ ∧ _))

/-- The texts of an optional field: it is not there, and there are none; or
it is a list of texts, none of them empty. -/
def HoldsTexts (item : Json) (field : String) (texts : List String) : Prop :=
  (item.field? field = none ∧ texts = []) ∨
    (item.field? field = some (.ofTexts texts) ∧ ∀ s ∈ texts, s ≠ "")

/-- An item of a snapshot states a unit. -/
structure States (item : Json) (u : CompilationUnit) : Prop where
  name : item.field? "name" = some (.text u.name)
  isName : IsUnitName u.name
  sourceFiles : HoldsTexts item "source_files" u.sourceFiles
  /-- Of a symbol that is repeated the first occurrence counts. -/
  defines : ∃ texts, HoldsTexts item "defines" texts ∧ u.defines = distinct texts
  references : HoldsTexts item "references" u.references
  /-- Of a project reference that is repeated the first occurrence counts. -/
  projectReferences : ∃ texts,
    HoldsTexts item "project_references" texts ∧ u.projectReferences = distinct texts

/-- The texts of an optional field, if it holds texts. -/
def textsAt? (item : Json) (field : String) : Option (List String) :=
  match item.field? field with
  | none => some []
  | some part => part.texts?.filter fun texts => "" ∉ texts

/-- The unit that an item states, if it states one. -/
def statedUnit? (item : Json) : Option CompilationUnit := do
  let name ← (item.field? "name").bind Json.text?
  let sourceFiles ← textsAt? item "source_files"
  let defines ← textsAt? item "defines"
  let references ← textsAt? item "references"
  let projectReferences ← textsAt? item "project_references"
  if IsUnitName name then
    some {
      name
      sourceFiles
      defines := distinct defines
      references
      projectReferences := distinct projectReferences }
  else none

/-- Only an object states a unit. -/
theorem States.object {item : Json} {u : CompilationUnit} (h : States item u) :
    ∃ fields, item = .object fields := by
  have hname := h.name
  cases item with
  | object fields => exact ⟨fields, rfl⟩
  | _ => simp [Json.field?] at hname

/-- Only a text has a text. -/
theorem Json.text?_eq_some_iff {value : Json} {s : String} :
    value.text? = some s ↔ value = .text s := by
  cases value <;> simp [Json.text?]

/-- Values have texts, all of them, only if all of them are texts. -/
theorem mapM_text?_eq_some_iff {values : List Json} {texts : List String} :
    values.mapM Json.text? = some texts ↔ values = texts.map .text := by
  induction values generalizing texts with
  | nil => cases texts <;> simp
  | cons value rest ih =>
      rw [List.mapM_cons]
      cases texts <;> simp [Option.bind_eq_some_iff, Json.text?_eq_some_iff, ih]

/-- Only a list of texts has texts. -/
theorem Json.texts?_eq_some_iff {value : Json} {texts : List String} :
    value.texts? = some texts ↔ value = .ofTexts texts := by
  cases value with
  | array values => simp [Json.texts?, Json.ofTexts, mapM_text?_eq_some_iff]
  | _ => simp [Json.texts?, Json.ofTexts]

/-- A field gives texts exactly if it holds them, where a missing one holds
none. -/
theorem textsAt?_eq_some_iff {item : Json} {field : String} {texts : List String} :
    textsAt? item field = some texts ↔ HoldsTexts item field texts := by
  unfold textsAt? HoldsTexts
  cases item.field? field with
  | none => simp [eq_comm]
  | some part =>
      have hnonempty : "" ∉ texts ↔ ∀ s ∈ texts, s ≠ "" :=
        ⟨fun h s hs hempty => h (hempty ▸ hs), fun h hs => h "" hs rfl⟩
      simp [Option.filter_eq_some_iff, Json.texts?_eq_some_iff, hnonempty]

/-- The unit that is computed is the one that is stated. -/
theorem statedUnit?_eq_some_iff {item : Json} {u : CompilationUnit} :
    statedUnit? item = some u ↔ States item u := by
  simp only [statedUnit?, Option.bind_eq_bind, Option.bind_eq_some_iff, textsAt?_eq_some_iff,
    Json.text?_eq_some_iff, Option.ite_none_right_eq_some, Option.some.injEq]
  constructor
  · rintro ⟨name, ⟨value, hname, rfl⟩, sourceFiles, hsources, defines, hdefines, references,
      hreferences, projectReferences, hprojects, hvalid, rfl⟩
    exact ⟨hname, hvalid, hsources, ⟨defines, hdefines, rfl⟩, hreferences,
      ⟨projectReferences, hprojects, rfl⟩⟩
  · rintro ⟨hname, hvalid, hsources, ⟨defines, hdefines, hfirst⟩, hreferences,
      ⟨projectReferences, hprojects, hfirst'⟩⟩
    refine ⟨u.name, ⟨_, hname, rfl⟩, u.sourceFiles, hsources, defines, hdefines, u.references,
      hreferences, projectReferences, hprojects, hvalid, ?_⟩
    rw [← hfirst, ← hfirst']

/-! ### The schema of a unit -/

/-- What a search for the pattern `^[^/\\]+$` finds: a stretch from the
start that is not empty and has no slash of either kind. It ends where the
text does, or before a line feed that ends the text. -/
def FindsPlainPattern (cs : List Char) : Prop :=
  ∃ stretch rest, cs = stretch ++ rest ∧ stretch ≠ [] ∧
    (∀ c ∈ stretch, c ≠ '/' ∧ c ≠ '\\') ∧ (rest = [] ∨ rest = ['\n'])

/-- The pattern of plain names matches the texts that are not empty and have
no slash of either kind. -/
theorem Schema.isPlain_iff {s : String} :
    Schema.isPlain s = true ↔ s ≠ "" ∧ ∀ c ∈ s.toList, c ≠ '/' ∧ c ≠ '\\' := by
  simp [Schema.isPlain]

/-- The rule for names accepts what a search for its pattern finds. -/
theorem isPlain_iff_finds {s : String} :
    Schema.isPlain s = true ↔ FindsPlainPattern s.toList := by
  rw [Schema.isPlain_iff]
  constructor
  · rintro ⟨hempty, hchars⟩
    exact ⟨s.toList, [], by simp, by simpa using hempty, hchars, Or.inl rfl⟩
  · rintro ⟨stretch, rest, hsplit, hsome, hchars, hrest⟩
    -- The line feed that may follow the stretch is no slash either.
    have hfeed : ∀ c ∈ rest, c ≠ '/' ∧ c ≠ '\\' := by
      rcases hrest with rfl | rfl <;> simp
    refine ⟨?_, ?_⟩
    · rintro rfl
      simp_all
    · rw [hsplit]
      exact List.forall_mem_append.mpr ⟨hchars, hfeed⟩

/-- The schema of names accepts the texts that can name a unit. The pattern of
the schema speaks of all characters of a text at once; it says the same as the
absence of the two separators. -/
theorem unitName_eq_nil_iff {value : Json} :
    Schema.unitName value = [] ↔ ∃ s, value = .text s ∧ IsUnitName s := by
  simp only [Schema.unitName, Schema.all_eq_nil_iff, List.forall_mem_cons, List.not_mem_nil,
    false_implies, implies_true, and_true, Schema.kind_eq_nil_iff, ValueKind.holds_text_iff]
  constructor
  · rintro ⟨⟨s, rfl⟩, hempty, hplain, hreserved⟩
    rw [Schema.nonEmpty_text_eq_nil_iff] at hempty
    rw [Schema.plain_text_eq_nil_iff, Schema.isPlain_iff] at hplain
    rw [Schema.notReserved_text_eq_nil_iff] at hreserved
    refine ⟨s, rfl, hempty, fun h => (hplain.2 _ h).1 rfl, fun h => (hplain.2 _ h).2 rfl, ?_⟩
    simpa [Schema.reservedNames] using hreserved
  · rintro ⟨s, rfl, hempty, hslash, hbackslash, hreserved⟩
    rw [Schema.nonEmpty_text_eq_nil_iff, Schema.plain_text_eq_nil_iff, Schema.isPlain_iff,
      Schema.notReserved_text_eq_nil_iff]
    refine ⟨⟨s, rfl⟩, hempty, ⟨hempty, fun c hc => ⟨?_, ?_⟩⟩, ?_⟩
    · rintro rfl
      exact hslash hc
    · rintro rfl
      exact hbackslash hc
    · simpa [Schema.reservedNames] using hreserved

/-- An optional list meets its schema if it holds texts. -/
theorem listOfTexts_field_iff {item : Json} {field : String} :
    (∀ part, item.field? field = some part → Schema.listOfTexts part = []) ↔
      ∃ texts, HoldsTexts item field texts := by
  unfold HoldsTexts
  cases item.field? field with
  | none => simp
  | some part => simp [Schema.listOfTexts_eq_nil_iff]

/-- The schema of units objects to an item just when it states no unit. From
left to right the unit is read off the fields; from right to left each field
is one that the schema of its part accepts. -/
theorem errors_unit_eq_nil_iff {item : Json} :
    DocumentKind.unit.errors item = [] ↔ ∃ u, States item u := by
  rw [DocumentKind.errors_eq_nil_iff]
  simp only [DocumentKind.schema, Schema.unit, Schema.all_eq_nil_iff, Schema.fields_eq_nil_iff,
    List.forall_mem_cons, List.not_mem_nil, false_implies, implies_true, and_true,
    Schema.kind_eq_nil_iff, ValueKind.holds_object_iff, listOfTexts_field_iff]
  constructor
  · rintro ⟨⟨fields, rfl⟩, hthere, hname, ⟨sourceFiles, hsources⟩, ⟨defines, hdefines⟩,
      ⟨references, hreferences⟩, ⟨projectReferences, hprojects⟩⟩
    rw [Schema.required_object_eq_nil_iff] at hthere
    obtain ⟨value, hvalue⟩ := Option.isSome_iff_exists.mp hthere
    obtain ⟨name, rfl, hvalid⟩ := unitName_eq_nil_iff.mp (hname value hvalue)
    exact ⟨⟨name, sourceFiles, distinct defines, references, distinct projectReferences⟩,
      hvalue, hvalid, hsources, ⟨defines, hdefines, rfl⟩, hreferences,
      ⟨projectReferences, hprojects, rfl⟩⟩
  · rintro ⟨u, hstates⟩
    obtain ⟨fields, rfl⟩ := hstates.object
    obtain ⟨defines, hdefines, _⟩ := hstates.defines
    obtain ⟨projectReferences, hprojects, _⟩ := hstates.projectReferences
    refine ⟨⟨fields, rfl⟩, ?_, fun part hpart => ?_, ⟨_, hstates.sourceFiles⟩, ⟨_, hdefines⟩,
      ⟨_, hstates.references⟩, ⟨_, hprojects⟩⟩
    · rw [Schema.required_object_eq_nil_iff]
      exact Option.isSome_iff_exists.mpr ⟨_, hstates.name⟩
    · rw [hstates.name, Option.some.injEq] at hpart
      exact unitName_eq_nil_iff.mpr ⟨u.name, hpart.symm, hstates.isName⟩

/-- A unit has an empty listing exactly if a unit can be read off it. -/
theorem errors_unit_eq_nil_iff_isSome {item : Json} :
    DocumentKind.unit.errors item = [] ↔ (statedUnit? item).isSome = true := by
  simp only [errors_unit_eq_nil_iff, Option.isSome_iff_exists, statedUnit?_eq_some_iff]

/-! ### Taking the fields as they are -/

/-- Texts are compared as texts: of those that are not seen yet, the first
occurrences stay. -/
theorem distinctScalars_texts (seen texts : List String) :
    Json.distinctScalars (seen.map .text) (texts.map .text) =
      .ok (((distinct texts).filter (· ∉ seen)).map .text) := by
  induction texts generalizing seen with
  | nil => rfl
  | cons s rest ih =>
      have hmem : Json.Scalar.text s ∈ seen.map Json.Scalar.text ↔ s ∈ seen := by simp
      rw [List.map_cons, Json.distinctScalars]
      dsimp only [Json.scalar?]
      by_cases hs : s ∈ seen
      · -- Whatever was seen is no news, so dropping `s` from the rest changes nothing.
        rw [if_pos (hmem.mpr hs), ih, distinct, List.filter_cons_of_neg (by simpa using hs),
          List.filter_filter]
        refine congrArg (fun news : List String => Except.ok (news.map Json.text)) ?_
        refine List.filter_congr fun x _ => ?_
        by_cases hx : x = s <;> simp [hx, hs]
      · rw [if_neg (fun h => hs (hmem.mp h)), ← List.map_cons, ih, distinct,
          List.filter_cons_of_pos (by simpa using hs), List.filter_filter]
        simp only [List.mem_cons, not_or, Except.map, List.map_cons]
        refine congrArg (fun news : List String => Except.ok (Json.text s :: news.map Json.text)) ?_
        refine List.filter_congr fun x _ => ?_
        by_cases hx : x = s <;> simp [hx]

/-- The elements of a field that holds texts are these texts. -/
theorem optionalElements_of_holdsTexts {item : Json} {field : String} {texts : List String}
    (h : HoldsTexts item field texts) :
    item.optionalElements field = .ok (texts.map .text) := by
  unfold Json.optionalElements
  rcases h with ⟨hnone, rfl⟩ | ⟨hsome, _⟩
  · rw [hnone]
    rfl
  · rw [hsome]
    cases texts with
    | nil => rfl
    | cons s rest => rfl

/-- Keeping the texts of values that are texts keeps all of them. -/
theorem filterMap_text?_map (texts : List String) :
    (texts.map Json.text).filterMap Json.text? = texts := by
  rw [List.filterMap_map]
  exact List.filterMap_some

/-- The record of a unit: its texts as values. -/
def CompilationUnit.record (u : CompilationUnit) : UnitRecord where
  name := .text u.name
  sourceFiles := u.sourceFiles.map .text
  defines := u.defines.map .text
  references := u.references.map .text
  projectReferences := u.projectReferences.map .text

/-- The record of a unit stands for that unit. -/
@[simp] theorem CompilationUnit.unit_record (u : CompilationUnit) : u.record.unit = u := by
  simp only [UnitRecord.unit, CompilationUnit.record, filterMap_text?_map]
  rfl

/-- The fields of an item that states a unit are taken without a fault, and
they are those of the unit. -/
theorem ofJson_of_states {item : Json} {u : CompilationUnit} (h : States item u) :
    UnitRecord.ofJson item = .ok u.record := by
  obtain ⟨defines, hdefines, hfirst⟩ := h.defines
  obtain ⟨projectReferences, hprojects, hfirst'⟩ := h.projectReferences
  have hdistinct : ∀ texts : List String, Json.distinctScalars [] (texts.map .text) =
      .ok ((distinct texts).map .text) := fun texts => by
    have hall := distinctScalars_texts [] texts
    rwa [List.filter_eq_self.mpr (by simp), List.map_nil] at hall
  rw [UnitRecord.ofJson, h.name, optionalElements_of_holdsTexts h.sourceFiles,
    optionalElements_of_holdsTexts hdefines, optionalElements_of_holdsTexts h.references,
    optionalElements_of_holdsTexts hprojects, CompilationUnit.record, hfirst, hfirst']
  simp only [bind, Except.bind, hdistinct]
  rfl

end IdeProjects
