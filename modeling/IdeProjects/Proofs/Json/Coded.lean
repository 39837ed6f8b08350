import IdeProjects.Json.Basic
import Mathlib.Data.List.Basic

/-!
# `IdeProjects.Proofs.Json.Coded`: values with texts of codes and of characters

A value of characters comes back from its rows of codes (`repaired_coded`),
so nothing is lost when a document without halves of pairs is read with all
codes. In the other direction a half is lost, and two names of an object can
become one. A field is found all the same before and after the repair, if its
name has no sign of one (`field?_repaired`).
-/

set_option autoImplicit false

namespace IdeProjects

/-- Texts of other characters are other rows of codes. -/
theorem CodeText.ofString_injective {s r : String} (h : ofString s = ofString r) : s = r := by
  rw [← repaired_ofString s, h, repaired_ofString]

namespace Json

/-! ### Values with other texts -/

section

variable {τ σ : Type} {f : τ → σ} {g : σ → τ}

mutual

/-- What brings back every text brings back every value. -/
theorem mapTexts_mapTexts_of_leftInverse (h : Function.LeftInverse g f) :
    ∀ value : Json τ, (value.mapTexts f).mapTexts g = value
  | .null | .bool _ | .integer _ | .real _ => rfl
  | .text s => congrArg Json.text (h s)
  | .array items => congrArg Json.array (mapItems_mapItems_of_leftInverse h items)
  | .object fields => congrArg Json.object (mapFields_mapFields_of_leftInverse h fields)

/-- The same of the items of a list. -/
theorem mapItems_mapItems_of_leftInverse (h : Function.LeftInverse g f) :
    ∀ items : List (Json τ), mapItems g (mapItems f items) = items
  | [] => rfl
  | item :: rest => by
      rw [mapItems, mapItems, mapTexts_mapTexts_of_leftInverse h item,
        mapItems_mapItems_of_leftInverse h rest]

/-- The same of fields, with their names. -/
theorem mapFields_mapFields_of_leftInverse (h : Function.LeftInverse g f) :
    ∀ fields : List (τ × Json τ), mapFields g (mapFields f fields) = fields
  | [] => rfl
  | (name, value) :: rest => by
      rw [mapFields, mapFields, h name, mapTexts_mapTexts_of_leftInverse h value,
        mapFields_mapFields_of_leftInverse h rest]

end

end

/-- A value of characters is the repaired form of its own codes. -/
theorem repaired_coded (value : Json) : value.coded.repaired = value :=
  mapTexts_mapTexts_of_leftInverse CodeText.repaired_ofString value

/-- A list is read item by item. -/
theorem coded_array (items : List Json) : (array items).coded = .array (items.map coded) :=
  congrArg array (mapItems_eq_map _ items)

/-- The fields of an object as they are read. -/
def codedFields (fields : List (String × Json)) : List (CodeText × Coded) :=
  fields.map fun field => (.ofString field.1, field.2.coded)

/-- An object is read field by field, each name and value. -/
theorem coded_object (fields : List (String × Json)) :
    (object fields).coded = .object (codedFields fields) :=
  congrArg object (mapFields_eq_map _ fields)

/-! ### Repaired values -/

/-- A list is repaired item by item. -/
theorem repaired_array (items : List Coded) :
    (array items : Coded).repaired = .array (items.map repaired) :=
  congrArg array (mapItems_eq_map _ items)

/-- An object is repaired field by field. Fields whose names become one stay
two. -/
theorem repaired_object (fields : List (CodeText × Coded)) :
    (object fields : Coded).repaired =
      .object (fields.map fun field => (field.1.repaired, field.2.repaired)) :=
  congrArg object (mapFields_eq_map _ fields)

/-- The repair of a value leaves its fields under their names, as far as these
show no sign of a repair. -/
theorem field?_repaired {name : String} (hname : '\uFFFD' ∉ name.toList) (value : Coded) :
    value.repaired.field? name = (value.field? name).map repaired := by
  cases value with
  | object fields =>
      rw [repaired_object]
      show (fields.map fun field => (field.1.repaired, field.2.repaired)).lookup name =
        (fields.lookup (CodeText.ofString name)).map repaired
      induction fields with
      | nil => rfl
      | cons field rest ih =>
          have hrepaired : field.1.repaired = name ↔ field.1 = .ofString name :=
            @DocumentText.repaired_eq_iff CodeText _ field.1 name hname
          have hsame : (name == field.1.repaired) = (CodeText.ofString name == field.1) := by
            rw [Bool.eq_iff_iff, beq_iff_eq, beq_iff_eq, eq_comm, hrepaired, eq_comm]
          rw [List.map_cons, List.lookup_cons, List.lookup_cons, hsame]
          cases CodeText.ofString name == field.1 with
          | true => rfl
          | false => exact ih
  | _ => rfl

end Json

end IdeProjects
