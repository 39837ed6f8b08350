import IdeProjects.Fault

/-!
# `IdeProjects.Proofs.Schema.Rules`: when a value meets a schema

A value meets a schema when the schema lists nothing for it. Each rule is
turned here into a condition on the value: what it has to be, what its
items and fields have to meet. A schema is a tree of rules, so its
condition is read off by rewriting with these lemmas from the root down,
and no proof about a document looks at violations any more.

`validate_eq_ok_iff` and `errors_eq_nil_iff` lead from the two checks of
a document to the schema of its kind.
-/

set_option autoImplicit false

namespace IdeProjects

section

variable {τ : Type} {value : Json τ}

/-- A value has a kind if it is built that way. -/
theorem ValueKind.holds_object_iff :
    ValueKind.object.holds value = true ↔ ∃ fields, value = .object fields := by
  cases value <;> simp [ValueKind.holds]

/-- The lists are the values built from items. -/
theorem ValueKind.holds_array_iff :
    ValueKind.array.holds value = true ↔ ∃ items, value = .array items := by
  cases value <;> simp [ValueKind.holds]

/-- The texts are the values built from one text. -/
theorem ValueKind.holds_text_iff :
    ValueKind.text.holds value = true ↔ ∃ s, value = .text s := by
  cases value <;> simp [ValueKind.holds]

/-- The truth values are the two values built from a `Bool`; numbers are none
of them. -/
theorem ValueKind.holds_boolean_iff :
    ValueKind.boolean.holds value = true ↔ ∃ b, value = .bool b := by
  cases value <;> simp [ValueKind.holds]

end

namespace Schema

section

variable {τ : Type} {value : Json τ}

/-! ### Rules and rows of rules -/

/-- A rule lists nothing for the values in which it finds no breach, whatever
kind it names for them. -/
theorem rule_eq_nil_iff {kind? : Option ValueKind} {breach? : Json τ → Option Breach} :
    rule kind? breach? value = [] ↔ breach? value = none := by
  unfold rule
  cases breach? value <;> simp

/-- Schemas in a row list nothing if none of them does. -/
theorem all_eq_nil_iff {schemas : List (Schema τ)} :
    all schemas value = [] ↔ ∀ schema ∈ schemas, schema value = [] := by
  simp [all]

/-- Whatever the places of the items are called, each item meets the
schema. -/
theorem items_array_eq_nil_iff {schema : Schema τ} {values : List (Json τ)} :
    items schema (.array values) = [] ↔ ∀ value ∈ values, schema value = [] := by
  simp only [items, List.flatMap_eq_nil_iff, List.map_eq_nil_iff, Prod.forall]
  constructor
  · intro h value hvalue
    obtain ⟨i, hi, rfl⟩ := List.mem_iff_getElem.mp hvalue
    exact h values[i] i (List.mem_zipIdx_iff_getElem?.mpr (by simp))
  · intro h value i hmem
    exact h value (List.fst_mem_of_mem_zipIdx hmem)

/-! ### Texts and lists of texts -/

variable [DocumentText τ]

/-- Names that show no sign of a repair are told by their repaired form, so a
text among them is the very name. -/
theorem repaired_mem_iff {names : List String} (hnames : ∀ s ∈ names, '\uFFFD' ∉ s.toList)
    {t : τ} : DocumentText.repaired t ∈ names ↔ ∃ s ∈ names, t = DocumentText.ofString s := by
  constructor
  · exact fun ht => ⟨_, ht, DocumentText.eq_ofString_of_repaired rfl (hnames _ ht)⟩
  · rintro ⟨s, hs, rfl⟩
    rwa [DocumentText.repaired_ofString]

/-- A schema of a kind lists nothing for the values of that kind. -/
theorem kind_eq_nil_iff {k : ValueKind} : kind k value = [] ↔ k.holds value = true := by
  rw [kind, rule_eq_nil_iff]
  cases k.holds value <;> simp

/-- A text passes as not empty if it has a code, be it half of a pair: only
the empty text is repaired to the empty text. -/
theorem nonEmpty_text_eq_nil_iff {s : τ} :
    nonEmpty (.text s) = [] ↔ s ≠ DocumentText.ofString "" := by
  have hempty : DocumentText.repaired s = "" ↔ s = DocumentText.ofString "" :=
    DocumentText.repaired_eq_iff List.not_mem_nil
  rw [nonEmpty, rule_eq_nil_iff]
  simp [hempty]

/-- The pattern of plain names is matched against the characters of a text, so
against its repaired form. -/
theorem plain_text_eq_nil_iff {s : τ} :
    plain (.text s) = [] ↔ isPlain (DocumentText.repaired s) = true := by
  rw [plain, rule_eq_nil_iff]
  by_cases h : isPlain (DocumentText.repaired s) = true <;> simp [h]

/-- The names that are kept back are compared with the repaired form of a
text. -/
theorem notReserved_text_eq_nil_iff {s : τ} :
    notReserved (.text s) = [] ↔ DocumentText.repaired s ∉ reservedNames := by
  rw [notReserved, rule_eq_nil_iff]
  by_cases h : DocumentText.repaired s ∈ reservedNames <;> simp [h]

/-- A value is one of the allowed ones if it is one of their texts. None of
these may show a sign of a repair, or another text would pass for it. -/
theorem among_eq_nil_iff {allowed : List String}
    (hallowed : ∀ s ∈ allowed, '\uFFFD' ∉ s.toList) :
    among allowed value = [] ↔ ∃ s ∈ allowed, value = .text (DocumentText.ofString s) := by
  rw [among, rule_eq_nil_iff]
  cases value with
  | text t =>
      simp only [Json.text.injEq, ← repaired_mem_iff hallowed]
      by_cases ht : DocumentText.repaired t ∈ allowed <;> simp [ht]
  | _ => simp

/-- The schema of texts lists nothing for the texts. -/
theorem text_eq_nil_iff : text value = [] ↔ ∃ s, value = .text s := by
  rw [text, kind_eq_nil_iff, ValueKind.holds_text_iff]

/-- The schema of texts that are not empty: both of its rules at once. -/
theorem someText_eq_nil_iff :
    someText value = [] ↔ ∃ s, value = .text s ∧ s ≠ DocumentText.ofString "" := by
  simp only [someText, all_eq_nil_iff, List.forall_mem_cons, List.not_mem_nil, false_implies,
    implies_true, and_true, kind_eq_nil_iff, ValueKind.holds_text_iff]
  constructor
  · rintro ⟨⟨s, rfl⟩, hs⟩
    exact ⟨s, rfl, nonEmpty_text_eq_nil_iff.mp hs⟩
  · rintro ⟨s, rfl, hs⟩
    exact ⟨⟨s, rfl⟩, nonEmpty_text_eq_nil_iff.mpr hs⟩

/-- Values that are texts, none of them empty, are the values of a list of
texts. -/
theorem forall_someText_iff {values : List (Json τ)} :
    (∀ value ∈ values, someText value = []) ↔
      ∃ texts : List τ, values = texts.map .text ∧
        ∀ s ∈ texts, s ≠ DocumentText.ofString "" := by
  induction values with
  | nil => simp
  | cons value rest ih =>
      rw [List.forall_mem_cons, ih, someText_eq_nil_iff]
      constructor
      · rintro ⟨⟨s, rfl, hs⟩, texts, rfl, htexts⟩
        exact ⟨s :: texts, rfl, List.forall_mem_cons.mpr ⟨hs, htexts⟩⟩
      · rintro ⟨texts, hmap, htexts⟩
        cases texts with
        | nil => simp at hmap
        | cons s others =>
            rw [List.map_cons, List.cons.injEq] at hmap
            obtain ⟨hs, hothers⟩ := List.forall_mem_cons.mp htexts
            exact ⟨⟨s, hmap.1, hs⟩, others, hmap.2, hothers⟩

/-- The schema of lists of texts: the kind of the list first, then each item
by the schema of texts that are not empty. -/
theorem listOfTexts_eq_nil_iff :
    listOfTexts value = [] ↔
      ∃ texts : List τ, value = .ofTexts texts ∧ ∀ s ∈ texts, s ≠ DocumentText.ofString "" := by
  simp only [listOfTexts, all_eq_nil_iff, List.forall_mem_cons, List.not_mem_nil, false_implies,
    implies_true, and_true, kind_eq_nil_iff, ValueKind.holds_array_iff]
  constructor
  · rintro ⟨⟨values, rfl⟩, hvalues⟩
    obtain ⟨texts, rfl, htexts⟩ := forall_someText_iff.mp (items_array_eq_nil_iff.mp hvalues)
    exact ⟨texts, rfl, htexts⟩
  · rintro ⟨texts, rfl, htexts⟩
    exact ⟨⟨_, rfl⟩, items_array_eq_nil_iff.mpr (forall_someText_iff.mpr ⟨texts, rfl, htexts⟩)⟩

/-! ### Objects -/

variable [DecidableEq τ]

/-- A required field is there, whatever its value is. -/
theorem required_object_eq_nil_iff {name : String} {fields : List (τ × Json τ)} :
    required name (.object fields) = [] ↔
      ((Json.object fields).field? name).isSome = true := by
  rw [required, rule_eq_nil_iff]
  dsimp only
  split <;> simp_all

omit [DecidableEq τ] in
/-- An object is closed if each of its names is one of the given ones. -/
theorem closed_object_eq_nil_iff {names : List String}
    (hnames : ∀ s ∈ names, '\uFFFD' ∉ s.toList) {fields : List (τ × Json τ)} :
    closed names (.object fields) = [] ↔
      ∀ field ∈ fields, ∃ name ∈ names, field.1 = DocumentText.ofString name := by
  rw [closed, rule_eq_nil_iff]
  dsimp only
  -- Nothing is reported if no name is left over.
  have hothers : (fields.map (·.1)).filter (DocumentText.repaired · ∉ names) = [] ↔
      ∀ field ∈ fields, ∃ name ∈ names, field.1 = DocumentText.ofString name := by
    simp only [List.filter_eq_nil_iff, List.forall_mem_map, decide_not, Bool.not_eq_true',
      Bool.not_eq_false, decide_eq_true_eq, repaired_mem_iff hnames]
  rw [← hothers]
  cases (fields.map (·.1)).filter (DocumentText.repaired · ∉ names) <;> simp

/-- The schemas of fields look only at the fields that are there: one that is
missing passes. -/
theorem fields_eq_nil_iff {schemas : List (String × Schema τ)} :
    fields schemas value = [] ↔ ∀ entry ∈ schemas, ∀ part,
      value.field? entry.1 = some part → entry.2 part = [] := by
  simp only [fields, List.flatMap_eq_nil_iff]
  refine forall₂_congr fun entry _ => ?_
  cases value.field? entry.1 <;> simp

/-- An object of settings has no fields but the given ones, and each that is
there meets its schema. -/
theorem settings_eq_nil_iff {schemas : List (String × Schema τ)}
    (hnames : ∀ s ∈ schemas.map (·.1), '\uFFFD' ∉ s.toList) :
    settings schemas value = [] ↔
      (∃ fields, value = .object fields ∧ ∀ field ∈ fields,
        ∃ name ∈ schemas.map (·.1), field.1 = DocumentText.ofString name) ∧
      ∀ entry ∈ schemas, ∀ part, value.field? entry.1 = some part → entry.2 part = [] := by
  simp only [settings, all_eq_nil_iff, List.forall_mem_cons, List.not_mem_nil, false_implies,
    implies_true, and_true, kind_eq_nil_iff, ValueKind.holds_object_iff, fields_eq_nil_iff]
  constructor
  · rintro ⟨⟨fields, rfl⟩, hparts, hclosed⟩
    exact ⟨⟨fields, rfl, (closed_object_eq_nil_iff hnames).mp hclosed⟩, hparts⟩
  · rintro ⟨⟨fields, rfl, hclosed⟩, hparts⟩
    exact ⟨⟨fields, rfl⟩, hparts, (closed_object_eq_nil_iff hnames).mpr hclosed⟩

end

end Schema

/-! ### The two checks of a document -/

/-- Of violations one is always the foremost, unless there is none. -/
theorem Violation.foremost?_eq_none_iff {vs : List Violation} : foremost? vs = none ↔ vs = [] := by
  cases vs <;> simp [foremost?]

section

variable {τ : Type} [DecidableEq τ] [DocumentText τ] {kind : DocumentKind} {value : Json τ}

/-- The listing of a document is empty if its schema lists nothing; sorting
loses no entry. -/
theorem DocumentKind.errors_eq_nil_iff :
    kind.errors value = [] ↔ kind.schema value = [] := by
  rw [errors, List.map_eq_nil_iff, Violation.inOrder, ← List.length_eq_zero_iff,
    List.length_mergeSort, List.length_eq_zero_iff]

/-- A document is valid if its schema lists nothing. -/
theorem validate_eq_ok_iff :
    validate kind value = .ok () ↔ kind.schema value = [] := by
  rw [← Violation.foremost?_eq_none_iff, validate]
  cases Violation.foremost? (kind.schema value) <;> simp

/-- A document that its schema objects to is refused, and nothing else
can happen to it. -/
theorem validate_error {fault : Fault} (h : validate kind value = .error fault) :
    ∃ violation, fault = .refusal (.violates kind violation) := by
  rw [validate] at h
  split at h
  · cases h
  · rename_i violation _
    cases h
    exact ⟨violation, rfl⟩

end

end IdeProjects
