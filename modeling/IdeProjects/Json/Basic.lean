import IdeProjects.Number.Binary64
import IdeProjects.Text.Code

/-!
# `IdeProjects.Json.Basic`: JSON values

Configuration, unit snapshots and reports are JSON documents. An object
is a list of fields in the order of its text, because messages show a
value the way it was written; `setField` keeps one field per name, at
the place of its first occurrence and with its last value.

The texts of a value, the names of its fields among them, have the type
`τ`: a document that is read has `CodeText`s (`Json.Coded`), and a value
with `String`s is made from it by the repair of its texts. `coded` is the
way back, for a value whose texts are all of characters.

Two questions are asked of a value that no schema has checked: whether
it counts as given (`isGiven`), and which other values it equals
(`scalar?`). Whether two values are one and the same is decided part by
part (`same`).
-/

set_option autoImplicit false

namespace IdeProjects

/-- A JSON value. Whole numbers are exact; a number written with a
fraction or an exponent is a binary64 number. -/
inductive Json (τ : Type := String) where
  | null
  | bool (value : Bool)
  | integer (value : Int)
  | real (value : Binary64)
  | text (value : τ)
  | array (items : List (Json τ))
  | object (fields : List (τ × Json τ))

namespace Json

/-- The value of a document as it is read. -/
abbrev Coded := Json CodeText

section

variable {τ : Type}

instance : Inhabited (Json τ) := ⟨.null⟩

/-- Sets a field: the value of the field of this name is replaced where
it stands, and a new name comes last. -/
def setField [DecidableEq τ] (name : τ) (value : Json τ) :
    List (τ × Json τ) → List (τ × Json τ)
  | [] => [(name, value)]
  | (key, old) :: rest =>
    if key = name then (key, value) :: rest
    else (key, old) :: setField name value rest

/-- The value of a field of an object. -/
def field? [DecidableEq τ] [DocumentText τ] (name : String) : Json τ → Option (Json τ)
  | .object fields => fields.lookup (DocumentText.ofString name)
  | _ => none

/-- The text of a text value. -/
def text? : Json τ → Option τ
  | .text s => some s
  | _ => none

/-- The truth value of a truth value. -/
def bool? : Json τ → Option Bool
  | .bool b => some b
  | _ => none

/-- The most digits a whole number may have, read or written. -/
def maxDigits : Nat := 4300

/-- A list of texts. -/
def ofTexts (texts : List τ) : Json τ := .array (texts.map .text)

/-- The texts of a list of texts. -/
def texts? : Json τ → Option (List τ)
  | .array items => items.mapM text?
  | _ => none

/-- Whether a value counts as given: null, false, zero and everything
empty do not. -/
def isGiven [DocumentText τ] : Json τ → Bool
  | .null => false
  | .bool b => b
  | .integer n => n != 0
  | .real x => !x.isZero
  | .text s => DocumentText.repaired s != ""
  | .array items => !items.isEmpty
  | .object fields => !fields.isEmpty

/-- The kinds of values. -/
inductive Kind where
  | null
  | boolean
  | integer
  | real
  | text
  | array
  | object
  deriving DecidableEq, Repr

def kind : Json τ → Kind
  | .null => .null
  | .bool _ => .boolean
  | .integer _ => .integer
  | .real _ => .real
  | .text _ => .text
  | .array _ => .array
  | .object _ => .object

end

/-! ### Texts of another type -/

section

variable {τ σ : Type} (f : τ → σ)

mutual

/-- A value with `f` applied to its texts. -/
def mapTexts : Json τ → Json σ
  | .null => .null
  | .bool b => .bool b
  | .integer n => .integer n
  | .real x => .real x
  | .text s => .text (f s)
  | .array items => .array (mapItems items)
  | .object fields => .object (mapFields fields)

def mapItems : List (Json τ) → List (Json σ)
  | [] => []
  | item :: rest => item.mapTexts :: mapItems rest

def mapFields : List (τ × Json τ) → List (σ × Json σ)
  | [] => []
  | (name, value) :: rest => (f name, value.mapTexts) :: mapFields rest

end

/-- Mapping the texts of items maps those of each item. -/
theorem mapItems_eq_map (items : List (Json τ)) : mapItems f items = items.map (mapTexts f) := by
  induction items with
  | nil => rfl
  | cons item rest ih => rw [mapItems, ih, List.map_cons]

/-- Mapping the texts of fields maps each name and the texts of each value. -/
theorem mapFields_eq_map (fields : List (τ × Json τ)) :
    mapFields f fields = fields.map fun field => (f field.1, field.2.mapTexts f) := by
  induction fields with
  | nil => rfl
  | cons field rest ih => rw [mapFields, ih, List.map_cons]

end

/-- A value with the repaired forms of its texts. -/
def repaired : Coded → Json := mapTexts CodeText.repaired

/-- A value with its texts as rows of codes. -/
def coded : Json → Coded := mapTexts CodeText.ofString

/-! ### Equal values -/

section

variable {τ : Type} [DecidableEq τ]

mutual

/-- Whether two values are one and the same, their fields in one order. -/
def same : Json τ → Json τ → Bool
  | .null, .null => true
  | .bool b, .bool c => b = c
  | .integer m, .integer n => m = n
  | .real x, .real y => x = y
  | .text s, .text t => s = t
  | .array items, .array others => sameItems items others
  | .object fields, .object others => sameFields fields others
  | _, _ => false

def sameItems : List (Json τ) → List (Json τ) → Bool
  | [], [] => true
  | item :: rest, other :: others => item.same other && sameItems rest others
  | _, _ => false

def sameFields : List (τ × Json τ) → List (τ × Json τ) → Bool
  | [], [] => true
  | (name, value) :: rest, (other, value') :: others =>
    name = other && value.same value' && sameFields rest others
  | _, _ => false

end

mutual

/-- The question is answered by the parts of the two values. -/
theorem same_iff : ∀ {a b : Json τ}, a.same b = true ↔ a = b
  | .null, b | .bool _, b | .integer _, b | .real _, b | .text _, b => by
      cases b <;> simp [same]
  | .array items, b => by
      cases b with
      | array others => rw [same, sameItems_iff, array.injEq]
      | _ => simp [same]
  | .object fields, b => by
      cases b with
      | object others => rw [same, sameFields_iff, object.injEq]
      | _ => simp [same]

/-- The same of the items of two lists. -/
theorem sameItems_iff : ∀ {items others : List (Json τ)},
    sameItems items others = true ↔ items = others
  | [], others => by cases others <;> simp [sameItems]
  | item :: rest, others => by
      cases others with
      | nil => simp [sameItems]
      | cons other others =>
          rw [sameItems, Bool.and_eq_true, same_iff, sameItems_iff, List.cons.injEq]

/-- The same of the fields of two objects. -/
theorem sameFields_iff : ∀ {fields others : List (τ × Json τ)},
    sameFields fields others = true ↔ fields = others
  | [], others => by cases others <;> simp [sameFields]
  | field :: rest, others => by
      cases others with
      | nil => simp [sameFields]
      | cons other others =>
          rw [sameFields, Bool.and_eq_true, Bool.and_eq_true, decide_eq_true_eq, same_iff,
            sameFields_iff, List.cons.injEq, Prod.ext_iff]

end

instance : DecidableEq (Json τ) := fun _ _ => decidable_of_iff _ same_iff

end

/-- A value without parts, under which equal numbers are one: truth
values count as 0 and 1, and a number without a fraction as the whole
number. -/
inductive Scalar where
  | null
  | integer (value : Int)
  | real (value : Binary64)
  | text (value : String)
  deriving DecidableEq

/-- The scalar of a value; a list or an object has none. -/
def scalar? : Json → Option Scalar
  | .null => some .null
  | .bool b => some (.integer (if b then 1 else 0))
  | .integer n => some (.integer n)
  | .real x => match x.toInt? with
    | some n => some (.integer n)
    | none => some (.real x)
  | .text s => some (.text s)
  | .array _ => none
  | .object _ => none

end Json

end IdeProjects
