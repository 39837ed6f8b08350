import IdeProjects.Schema.Violation

/-!
# `IdeProjects.Schema.Basic`: schemas of documents

A schema lists what a value violates. Schemas are built from rules that
each look at one thing and leave values of another kind alone: only
`kind` objects to the kind itself. A value meets a schema when the list
is empty.

No rule tells a text with halves of pairs from its repaired form: the
rules look for an empty text, for slashes and for certain names.
-/

set_option autoImplicit false

namespace IdeProjects

/-- What a value violates, in the order of the rules. -/
abbrev Schema (τ : Type := String) := Json τ → List Violation

namespace Schema

section

variable {τ : Type}

/-- Whether a value has the kind that its schema names. -/
def meetsKind (kind? : Option ValueKind) (value : Json τ) : Bool :=
  match kind? with
  | some kind => kind.holds value
  | none => false

/-- A rule about the value itself, in a schema that names `kind?`. -/
def rule (kind? : Option ValueKind) (breach? : Json τ → Option Breach) : Schema τ :=
  fun value => match breach? value with
    | some breach => [⟨[], breach, meetsKind kind? value⟩]
    | none => []

/-- The rules of several schemas, one after the other. -/
def all (schemas : List (Schema τ)) : Schema τ :=
  fun value => schemas.flatMap (· value)

/-- The items of a list. -/
def items (schema : Schema τ) : Schema τ := fun value => match value with
  | .array values => values.zipIdx.flatMap fun (item, i) =>
    (schema item).map (·.under (.item i))
  | _ => []

variable [DocumentText τ]

/-- The value has the kind. -/
def kind (k : ValueKind) : Schema τ :=
  rule (some k) fun value => if k.holds value then none else some (.wrongKind value.literal k)

/-! ### Texts and lists of texts -/

/-- A text that is not empty. -/
def nonEmpty : Schema τ :=
  rule (some .text) fun value => match value with
    | .text s => if DocumentText.repaired s = "" then some (.empty value.literal) else none
    | _ => none

/-- A text of one character and more, none of them a slash of either
kind. -/
def isPlain (s : String) : Bool :=
  s != "" && s.toList.all fun c => c != '/' && c != '\\'

/-- A text that can be one name in a directory. -/
def plain : Schema τ :=
  rule (some .text) fun value => match value with
    | .text s =>
      if isPlain (DocumentText.repaired s) then none else some (.notPlain value.literal)
    | _ => none

/-- The names every directory has already. -/
def reservedNames : List String := [".", ".."]

/-- A text other than the reserved names. -/
def notReserved : Schema τ :=
  rule (some .text) fun value => match value with
    | .text s =>
      if DocumentText.repaired s ∈ reservedNames then some (.reserved value.literal) else none
    | _ => none

/-- One of the given texts, and no other value. This schema names no
kind. -/
def among (allowed : List String) : Schema τ :=
  rule none fun value => match value with
    | .text s =>
      if DocumentText.repaired s ∈ allowed then none
      else some (.notAmong value.literal allowed)
    | _ => some (.notAmong value.literal allowed)

/-- A text of any length. -/
def text : Schema τ := kind .text

/-- A text that is not empty. -/
def someText : Schema τ := all [kind .text, nonEmpty]

/-- A list of texts that are not empty. -/
def listOfTexts : Schema τ := all [kind .array, items someText]

/-! ### Objects -/

variable [DecidableEq τ]

/-- A field that has to be there. -/
def required (name : String) : Schema τ :=
  rule (some .object) fun value => match value with
    | .object _ => if (value.field? name).isSome then none else some (.missing name)
    | _ => none

/-- The fields of an object that are there. -/
def fields (schemas : List (String × Schema τ)) : Schema τ :=
  fun value => schemas.flatMap fun (name, schema) =>
    match value.field? name with
    | some part => (schema part).map (·.under (.field name))
    | none => []

/-- No fields but the given ones. The names of the others are reported
in order. -/
def closed (names : List String) : Schema τ :=
  rule (some .object) fun value => match value with
    | .object fields =>
      match (fields.map (·.1)).filter (DocumentText.repaired · ∉ names) with
      | [] => none
      | others =>
        some (.unexpected ((others.mergeSort DocumentText.le).map DocumentText.quoted))
    | _ => none

/-- An object with no fields but the given ones, all of them optional. -/
def settings (schemas : List (String × Schema τ)) : Schema τ :=
  all [kind .object, fields schemas, closed (schemas.map (·.1))]

end

end Schema

end IdeProjects
