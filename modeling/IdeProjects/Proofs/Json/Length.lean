import IdeProjects.Json.Writer
import IdeProjects.Proofs.Json.Reader
import Mathlib.Algebra.Group.Nat.Defs
import Mathlib.Data.List.Induction

/-!
# `IdeProjects.Proofs.Json.Length`: no number of a value that was read is too long

The reader refuses a whole number with more than `maxDigits` digits. So what
its steps give holds no such number (`GivesShort`), by induction on the fuel
as in `ReadsWithin`, and neither does a document that was read
(`hasLong_of_read`). The bound of the writer is therefore one for values from
elsewhere, and what shows a value that was read can do without any.
-/

set_option autoImplicit false

namespace IdeProjects

namespace Json

/-! ### Parts of a value -/

section

variable {τ σ : Type}

/-- A list has a number that is too long if one of its items has. -/
theorem itemsHaveLong_eq_false_iff {items : List (Json τ)} :
    itemsHaveLong items = false ↔ ∀ item ∈ items, item.hasLong = false := by
  induction items with
  | nil => simp [itemsHaveLong]
  | cons item rest ih => rw [itemsHaveLong, Bool.or_eq_false_iff, ih, List.forall_mem_cons]

/-- Of an object only the values count: a name is no number. -/
theorem fieldsHaveLong_eq_false_iff {fields : List (τ × Json τ)} :
    fieldsHaveLong fields = false ↔ ∀ f ∈ fields, f.2.hasLong = false := by
  induction fields with
  | nil => simp [fieldsHaveLong]
  | cons f rest ih => rw [fieldsHaveLong, Bool.or_eq_false_iff, ih, List.forall_mem_cons]

/-- A field that is set brings its own value in, and nothing else. -/
theorem fieldsHaveLong_setField [DecidableEq τ] (name : τ) {value : Json τ}
    {fields : List (τ × Json τ)} (hvalue : value.hasLong = false)
    (hfields : fieldsHaveLong fields = false) :
    fieldsHaveLong (setField name value fields) = false := by
  induction fields with
  | nil => simp [setField, fieldsHaveLong, hvalue]
  | cons field rest ih =>
      rw [fieldsHaveLong, Bool.or_eq_false_iff] at hfields
      rw [setField]
      split
      · rw [fieldsHaveLong, hvalue, hfields.2, Bool.or_false]
      · rw [fieldsHaveLong, hfields.1, ih hfields.2, Bool.or_false]

mutual

/-- The numbers of a value are no texts, so they stay when its texts are
mapped. -/
theorem hasLong_mapTexts (f : τ → σ) : ∀ value : Json τ, (value.mapTexts f).hasLong = value.hasLong
  | .null | .bool _ | .integer _ | .real _ | .text _ => rfl
  | .array items => itemsHaveLong_mapItems f items
  | .object fields => fieldsHaveLong_mapFields f fields

/-- The same of the items of a list. -/
theorem itemsHaveLong_mapItems (f : τ → σ) :
    ∀ items : List (Json τ), itemsHaveLong (mapItems f items) = itemsHaveLong items
  | [] => rfl
  | item :: rest => by
      rw [mapItems, itemsHaveLong, itemsHaveLong, hasLong_mapTexts f item,
        itemsHaveLong_mapItems f rest]

/-- The same of the fields of an object, whose names are no numbers. -/
theorem fieldsHaveLong_mapFields (f : τ → σ) :
    ∀ fields : List (τ × Json τ), fieldsHaveLong (mapFields f fields) = fieldsHaveLong fields
  | [] => rfl
  | (name, value) :: rest => by
      rw [mapFields, fieldsHaveLong, fieldsHaveLong, hasLong_mapTexts f value,
        fieldsHaveLong_mapFields f rest]

end

end

/-! ### Numbers -/

/-- Digits have a value below the power of ten with as many zeros. -/
theorem digitsValue_lt {digits : List Char} (h : ∀ c ∈ digits, c.isDigit = true) :
    digitsValue digits < 10 ^ digits.length := by
  induction digits using List.reverseRecOn with
  | nil => decide
  | append_singleton digits c ih =>
      rw [List.forall_mem_append, List.forall_mem_singleton] at h
      have hdigit : c.toNat ≤ '9'.toNat := (Char.isDigit_iff_toNat.mp h.2).2
      have hdigits := ih h.1
      rw [digitsValue, List.foldl_append, ← digitsValue, List.length_append]
      simp only [List.foldl_cons, List.foldl_nil, List.length_singleton, Nat.pow_succ]
      have hzero : '9'.toNat - '0'.toNat = 9 := rfl
      omega

/-- The number of digits that are not too many is not too long, whatever its
sign is. -/
theorem isLong_of_digits {digits : List Char} (h : ∀ c ∈ digits, c.isDigit = true)
    (hmany : digits.length ≤ maxDigits) {n : Int} (hn : n.natAbs = digitsValue digits) :
    isLong n = false := by
  have hlt : n.natAbs < 10 ^ maxDigits :=
    hn ▸ (digitsValue_lt h).trans_le (Nat.pow_le_pow_right (by decide) hmany)
  rw [isLong, decide_eq_false_iff_not, Nat.not_lt]
  exact (Nat.length_toDigits_le_iff (by decide) (by decide)).mpr hlt

/-! ### What the steps give -/

/-- What the step gives, if it gives anything, has no number that is too
long; `long` is what tells for such a result. -/
def GivesShort {α : Type} (long : α → Bool) (step : Step α) : Prop :=
  ∀ a left, step = .ok (a, left) → long a = false

namespace GivesShort

variable {α β : Type} {long : α → Bool} {long' : β → Bool}

/-- A step that gives up gives no number. -/
theorem of_error (failure : Failure) : GivesShort long (.error failure) := nofun

/-- A step that gives something answers for that. -/
theorem of_ok {a : α} (h : long a = false) (left : List Char) :
    GivesShort long (.ok (a, left)) := by
  intro _ _ heq
  cases heq
  exact h

/-- What is made of the result has to have no number that is too long if the
result has none. -/
theorem map {step : Step α} {g : α → β} (h : GivesShort long step)
    (hg : ∀ a, long a = false → long' (g a) = false) :
    GivesShort long' (step.map fun (a, left) => (g a, left)) := by
  cases step with
  | error failure => exact .of_error failure
  | ok found => exact .of_ok (hg _ (h _ _ rfl)) _

end GivesShort

/-- A number is given only if its digits are not too many. One with a fraction
or an exponent is no whole number. -/
theorem givesShort_readMagnitude (start : List Char) (negative : Bool) (cs : List Char) :
    GivesShort hasLong (readMagnitude start negative cs) := by
  unfold readMagnitude
  cases hwhole : wholeDigits? cs with
  | none => exact .of_error _
  | some found =>
      obtain ⟨whole, rest⟩ := found
      have hdigits := (wholeDigits?_eq_some hwhole).2
      dsimp only
      split
      · split
        · exact .of_error _
        · rename_i hmany
          refine .of_ok ?_ _
          refine isLong_of_digits hdigits (Nat.le_of_not_lt hmany) ?_
          cases negative <;> simp
      · exact .of_ok rfl _

/-- The sign adds no digit. -/
theorem givesShort_readNumber (cs : List Char) : GivesShort hasLong (readNumber cs) := by
  unfold readNumber
  split
  · exact givesShort_readMagnitude _ _ _
  · exact givesShort_readMagnitude _ _ _

/-- No word stands for a whole number. -/
theorem hasLong_of_readWord? {cs : List Char} {found : Coded × List Char}
    (h : readWord? cs = some found) : found.1.hasLong = false := by
  have hwords : ∀ entry ∈ words, entry.2.hasLong = false := by decide
  obtain ⟨⟨word, value⟩, hmem, hfound⟩ := List.exists_of_findSome?_eq_some h
  dsimp only at hfound
  split at hfound
  · cases hfound
    exact hwords _ hmem
  · cases hfound

/-- With so much fuel the steps for values, items and fields give no number
that is too long, if the fields that were read before have none. -/
structure ReadsShort (fuel : Nat) : Prop where
  value : ∀ cs, GivesShort hasLong (readValue fuel cs)
  items : ∀ cs, GivesShort itemsHaveLong (readItems fuel cs)
  fields : ∀ fields cs, fieldsHaveLong fields = false →
    GivesShort fieldsHaveLong (readFields fuel fields cs)

namespace ReadsShort

variable {fuel : Nat} (h : ReadsShort fuel)

include h

/-- One step of a value: the parts of a list or an object are given by steps
with less fuel. -/
theorem value_succ (cs : List Char) :
    GivesShort hasLong (readValue (fuel + 1) cs) := by
  rw [readValue.eq_def]
  dsimp only
  split
  · exact .of_error _
  · rename_i rest
    cases readText ('"' :: rest) rest with
    | error failure => exact .of_error failure
    | ok found => exact .of_ok rfl _
  · split
    · exact .of_ok rfl _
    · exact (h.items _).map fun _ hitems => hitems
  · split
    · exact .of_ok rfl _
    · exact (h.fields [] _ rfl).map fun _ hfields => hfields
  · split
    · rename_i hword
      exact .of_ok (hasLong_of_readWord? hword) _
    · exact givesShort_readNumber _

/-- One step of a list: a value, and the items that follow. -/
theorem items_succ (cs : List Char) :
    GivesShort itemsHaveLong (readItems (fuel + 1) cs) := by
  rw [readItems.eq_def]
  dsimp only
  cases hrun : readValue fuel cs with
  | error failure => exact .of_error _
  | ok found =>
      obtain ⟨item, left⟩ := found
      have hitem : item.hasLong = false := h.value cs item left hrun
      dsimp only
      split
      · exact .of_ok (by rw [itemsHaveLong, hitem, itemsHaveLong, Bool.or_false]) _
      · refine (h.items _).map fun items hitems => ?_
        rw [itemsHaveLong, hitem, hitems, Bool.or_false]
      · exact .of_error _

/-- One step of an object: the field is set among those before it, and the
rest goes on from there. -/
theorem fields_succ (fields : List (CodeText × Coded)) (cs : List Char)
    (hfields : fieldsHaveLong fields = false) :
    GivesShort fieldsHaveLong (readFields (fuel + 1) fields cs) := by
  rw [readFields.eq_def]
  dsimp only
  split
  · rename_i rest
    cases readText ('"' :: rest) rest with
    | error failure => exact .of_error _
    | ok found =>
        obtain ⟨name, left⟩ := found
        dsimp only
        split
        · rename_i after _
          cases hrun : readValue fuel (skipSpace after) with
          | error failure => exact .of_error _
          | ok found =>
              obtain ⟨value, left'⟩ := found
              -- The value is set before the next field is read, so the bound is
              -- one on all fields so far.
              have hset := fieldsHaveLong_setField name
                (h.value (skipSpace after) value left' hrun) hfields
              dsimp only
              split
              · exact .of_ok hset _
              · exact h.fields _ _ hset
              · exact .of_error _
        · exact .of_error _
  · exact .of_error _

end ReadsShort

/-- The steps give no number that is too long with any fuel: each calls the
others with less. -/
theorem readsShort (fuel : Nat) : ReadsShort fuel := by
  induction fuel with
  | zero => exact ⟨fun _ => .of_error _, fun _ => .of_error _, fun _ _ _ => .of_error _⟩
  | succ fuel ih => exact ⟨ih.value_succ, ih.items_succ, ih.fields_succ⟩

/-- A value that was read has no whole number that is too long to be
written. -/
theorem hasLong_of_read {cs : List Char} {value : Json} (h : read cs = .ok value) :
    value.hasLong = false := by
  obtain ⟨coded, hcoded, rfl⟩ : ∃ coded, readCoded cs = .ok coded ∧ coded.repaired = value := by
    rw [read] at h
    cases hrun : readCoded cs with
    | error failure =>
        rw [hrun] at h
        cases h
    | ok coded =>
        rw [hrun] at h
        cases h
        exact ⟨coded, rfl, rfl⟩
  have hdocument : readDocument cs = .ok coded := by
    rw [readCoded] at hcoded
    split at hcoded <;> cases hcoded
    assumption
  -- The repair changes texts and leaves the numbers alone.
  rw [repaired, hasLong_mapTexts]
  rw [readDocument.eq_def] at hdocument
  split at hdocument
  · cases hdocument
  · split at hdocument
    · cases hdocument
    · rename_i found left hrun
      split at hdocument <;> cases hdocument
      exact (readsShort _).value _ _ _ hrun

end Json

end IdeProjects
