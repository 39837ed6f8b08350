import IdeProjects.Proofs.Json.RoundTrip

/-!
# `IdeProjects.Proofs.Json.Ascii`: what a document is written with

Whatever characters the texts of a value hold, its document is made of line
feeds and of the printable characters of ASCII (`Exact.isPlain`). So it has no
carriage return that a reader would change, and one byte for each character.
-/

set_option autoImplicit false

namespace IdeProjects

namespace Json

/-- A line feed or a printable character of ASCII. -/
def IsPlain (c : Char) : Prop := c = '\n' ∨ 0x20 ≤ c.toNat ∧ c.toNat < 0x7F

instance (c : Char) : Decidable (IsPlain c) := inferInstanceAs (Decidable (_ ∨ _))

/-- The characters of a text that is given are plain if a look at each says
so. -/
theorem isPlain_of_all {cs : List Char} (h : cs.all (fun d => decide (IsPlain d)) = true) :
    ∀ d ∈ cs, IsPlain d := fun d hd => of_decide_eq_true (List.all_eq_true.mp h d hd)

/-- The decimal digits are plain. -/
theorem isPlain_of_isDigit {c : Char} (h : c.isDigit = true) : IsPlain c := by
  have hrange : 48 ≤ c.toNat ∧ c.toNat ≤ 57 := Char.isDigit_iff_toNat.mp h
  exact Or.inr (by omega)

/-! ### Texts -/

/-- An escape by number is plain: a backslash, a letter and hexadecimal
digits. -/
theorem isPlain_codeEscape (code : Nat) : ∀ d ∈ codeEscape code, IsPlain d := by
  have hdigits : ∀ d ∈ Text.Hex.smallDigits, IsPlain d := isPlain_of_all (by decide)
  rw [codeEscape, List.forall_mem_cons, List.forall_mem_cons]
  refine ⟨by decide, by decide, fun d hd => ?_⟩
  exact hdigits d (Text.Hex.mem_digits (by decide) 4 code hd)

/-- A character is written as itself only if it is plain. -/
theorem isPlain_writeChar (c : Char) : ∀ d ∈ writeChar c, IsPlain d := by
  rcases writeChar_cases c with ⟨letter, hmem, hwritten, -⟩ | ⟨⟨-, -, hprintable⟩, hwritten⟩ |
    hwritten
  · have hletters : ∀ d ∈ ['"', '\\', 'n', 'r', 't', 'b', 'f'], IsPlain d :=
      isPlain_of_all (by decide)
    rw [hwritten, List.forall_mem_cons, List.forall_mem_singleton]
    exact ⟨by decide, hletters letter hmem⟩
  · rw [hwritten]
    exact List.forall_mem_singleton.mpr (Or.inr hprintable)
  · rw [hwritten, List.forall_mem_flatMap]
    exact fun code _ => isPlain_codeEscape code

/-- A text is written in plain characters, whatever it holds. -/
theorem isPlain_writeText (s : String) : ∀ d ∈ writeText s, IsPlain d := by
  rw [writeText, List.cons_append, List.forall_mem_cons, List.forall_mem_append,
    List.forall_mem_flatMap]
  exact ⟨by decide, fun c _ => isPlain_writeChar c, List.forall_mem_singleton.mpr (by decide)⟩

/-! ### Values -/

/-- A line break and the blanks behind it are plain. -/
theorem isPlain_newLine (level : Nat) : ∀ d ∈ newLine level, IsPlain d := by
  rw [newLine, List.forall_mem_cons]
  refine ⟨by decide, fun d hd => ?_⟩
  rw [(List.mem_replicate.mp hd).2]
  decide

/-- A whole number is a sign, if any, and digits. -/
theorem isPlain_toString (n : Int) : ∀ d ∈ (toString n).toList, IsPlain d := by
  have hdigits : ∀ d ∈ Nat.toDigits 10 n.natAbs, IsPlain d := fun d hd =>
    isPlain_of_isDigit (Nat.isDigit_of_mem_toDigits (by decide) (by decide) hd)
  rw [toList_toString]
  split
  · exact hdigits
  · exact List.forall_mem_cons.mpr ⟨by decide, hdigits⟩

/-- The items of a list after its first are plain if each by itself is. -/
theorem isPlain_moreItems {items : List Json}
    (h : ∀ item ∈ items, ∀ level, ∀ d ∈ writeIndented level item, IsPlain d) (level : Nat) :
    ∀ d ∈ moreItems level items, IsPlain d := by
  induction items with
  | nil => simp [moreItems]
  | cons item rest ih =>
      obtain ⟨hitem, hrest⟩ := List.forall_mem_cons.mp h
      simp only [moreItems, List.cons_append, List.append_assoc, List.forall_mem_cons,
        List.forall_mem_append]
      exact ⟨by decide, isPlain_newLine level, hitem level, ih hrest⟩

/-- The fields of an object after its first are plain if their values are. -/
theorem isPlain_moreFields {fields : List (String × Json)}
    (h : ∀ f ∈ fields, ∀ level, ∀ d ∈ writeIndented level f.2, IsPlain d) (level : Nat) :
    ∀ d ∈ moreFields level fields, IsPlain d := by
  induction fields with
  | nil => simp [moreFields]
  | cons f rest ih =>
      obtain ⟨hfield, hrest⟩ := List.forall_mem_cons.mp h
      simp only [moreFields, List.cons_append, List.append_assoc, List.forall_mem_cons,
        List.forall_mem_append]
      exact ⟨by decide, isPlain_newLine level, isPlain_writeText f.1, by decide, by decide,
        hfield level, ih hrest⟩

/-- What is written of a value is plain, by induction on the value: brackets,
line breaks and the signs between parts are plain, and so are texts and
numbers. -/
theorem Exact.isPlain {value : Json} (h : Exact value) (level : Nat) :
    ∀ d ∈ writeIndented level value, IsPlain d := by
  induction h generalizing level with
  | null => exact isPlain_of_all rfl
  | bool b => cases b <;> exact isPlain_of_all rfl
  | integer _ => exact isPlain_toString _
  | text s => exact isPlain_writeText s
  | @array items _ ih =>
      cases items with
      | nil => exact isPlain_of_all rfl
      | cons item rest =>
          obtain ⟨hitem, hrest⟩ := List.forall_mem_cons.mp ih
          simp only [writeIndented, List.cons_append, List.append_assoc,
            List.forall_mem_cons, List.forall_mem_append]
          exact ⟨by decide, isPlain_newLine _, hitem _, isPlain_moreItems hrest _,
            isPlain_newLine level, by decide, List.forall_mem_nil _⟩
  | @object fields _ _ ih =>
      cases fields with
      | nil => exact isPlain_of_all rfl
      | cons f rest =>
          obtain ⟨hfield, hrest⟩ := List.forall_mem_cons.mp ih
          simp only [writeIndented, List.cons_append, List.append_assoc,
            List.forall_mem_cons, List.forall_mem_append]
          exact ⟨by decide, isPlain_newLine _, isPlain_writeText f.1, by decide, by decide,
            hfield _, isPlain_moreFields hrest _, isPlain_newLine level, by decide, List.forall_mem_nil _⟩

/-- A document is plain from its first character to the line feed at its end.
-/
theorem isPlain_document {value : Json} (h : Exact value) :
    ∀ c ∈ value.document.toList, IsPlain c := by
  rw [document, String.toList_ofList, List.forall_mem_append]
  exact ⟨h.sorted.isPlain 0, List.forall_mem_singleton.mpr (by decide)⟩

end Json

end IdeProjects
