import IdeProjects.Json.Reader
import Mathlib.Data.List.Infix
import Mathlib.Data.List.TakeWhile

/-!
# `IdeProjects.Proofs.Json.Reader`: the reader stays within its text

Each step of the reader hands on an end of the text that it was given, and
refuses a whole number only for digits that stand in that text
(`StaysWithin`). A step that is made of others keeps that, so it holds of the
steps for values, items and fields together, by induction on the fuel
(`readsWithin`). So a document is refused for the length of a number only if
its text has more than `maxDigits` digits in a row
(`hasDigits_of_tooManyDigits`).
-/

set_option autoImplicit false

namespace IdeProjects

namespace Json

/-- The text has so many digits in a row. -/
def HasDigits (cs : List Char) (n : Nat) : Prop :=
  ∃ digits, digits <:+: cs ∧ digits.length = n ∧ ∀ c ∈ digits, c.isDigit = true

/-- What the step leaves is an end of the text, and digits that are too many
for it stand in the text. -/
structure StaysWithin {α : Type} (cs : List Char) (step : Step α) : Prop where
  left : ∀ a left, step = .ok (a, left) → left <:+ cs
  digits : ∀ n, step = .error (.tooManyDigits n) → maxDigits < n ∧ HasDigits cs n

namespace StaysWithin

variable {α β : Type} {cs cs' left : List Char} {step : Step α}

/-- A step that gives up for another reason than digits has nothing to show.
-/
theorem of_issue (issue : Issue) : StaysWithin cs (.error (.issue issue left) : Step α) :=
  ⟨nofun, nofun⟩

/-- A step that gives something has to leave an end of the text. -/
theorem of_ok {a : α} (h : left <:+ cs) : StaysWithin cs (.ok (a, left) : Step α) where
  left _ _ heq := by
    cases heq
    exact h
  digits := nofun

/-- A step that hands on the failure of another. -/
theorem of_error {failure : Failure} (h : StaysWithin cs (.error failure : Step α)) :
    StaysWithin cs (.error failure : Step β) :=
  ⟨nofun, fun n heq => h.digits n (by cases heq; rfl)⟩

/-- A step on an end of the text is one on the text. -/
theorem mono (h : StaysWithin cs' step) (hcs : cs' <:+ cs) : StaysWithin cs step where
  left a left heq := (h.left a left heq).trans hcs
  digits n heq := by
    obtain ⟨hn, digits, hdigits, hlength, hall⟩ := h.digits n heq
    exact ⟨hn, digits, hdigits.trans hcs.isInfix, hlength, hall⟩

/-- What is made of the result does not matter. -/
theorem map (h : StaysWithin cs step) (g : α → β) :
    StaysWithin cs (step.map fun (a, left) => (g a, left)) := by
  cases step with
  | error failure => exact h.of_error
  | ok found => exact of_ok (h.left found.1 found.2 rfl)

end StaysWithin

/-- White space is skipped at the start, so an end of the text is left. -/
theorem skipSpace_suffix (cs : List Char) : skipSpace cs <:+ cs := List.dropWhile_suffix _

/-- A text after its opening quote. -/
theorem staysWithin_textCodes (opening cs : List Char) :
    StaysWithin cs (textCodes opening cs) := by
  fun_induction textCodes opening cs with
  | case1 => exact .of_issue _
  | case2 rest => exact .of_ok (List.suffix_cons _ _)
  | case3 => exact .of_issue _
  | case4 => exact .of_issue _
  | case5 a b c d e rest code hcode ih =>
      exact (ih.map _).mono ⟨['\\', 'u', a, b, c, d], rfl⟩
  | case6 => exact .of_issue _
  | case7 => exact .of_issue _
  | case8 c rest _ _ code hcode ih => exact (ih.map _).mono ⟨['\\', c], rfl⟩
  | case9 => exact .of_issue _
  | case10 c rest _ _ _ _ _ _ ih => exact (ih.map _).mono (List.suffix_cons _ _)

/-- A text is read up to its closing quote. -/
theorem staysWithin_readText (opening cs : List Char) : StaysWithin cs (readText opening cs) :=
  (staysWithin_textCodes opening cs).map fun codes => CodeText.mk (joinCodes codes)

/-! ### Numbers -/

/-- The digits before the point are digits at the start of the text: a zero
alone, or all of them up to the first other character. -/
theorem wholeDigits?_eq_some {cs whole rest : List Char}
    (h : wholeDigits? cs = some (whole, rest)) :
    cs = whole ++ rest ∧ ∀ c ∈ whole, c.isDigit = true := by
  cases cs with
  | nil => cases h
  | cons c more =>
      rw [wholeDigits?] at h
      split at h
      · rename_i hzero
        cases h
        subst hzero
        exact ⟨rfl, List.forall_mem_singleton.mpr rfl⟩
      · split at h
        · rename_i hdigit
          cases h
          refine ⟨by rw [List.cons_append, List.takeWhile_append_dropWhile], fun d hd => ?_⟩
          rcases List.mem_cons.mp hd with rfl | hmore
          · exact hdigit
          · exact List.mem_takeWhile_imp hmore
        · cases h

/-- Behind the fraction an end of the text is left, all of it if there is no
fraction. -/
theorem fractionDigits_suffix (cs : List Char) : (fractionDigits cs).2 <:+ cs := by
  unfold fractionDigits
  split
  · split
    · exact List.suffix_refl _
    · exact (List.dropWhile_suffix _).trans (List.suffix_cons _ _)
  · exact List.suffix_refl _

/-- Behind the exponent an end of the text is left. A mark without digits is
not taken. -/
theorem exponentPart_suffix (cs : List Char) : (exponentPart cs).2 <:+ cs := by
  unfold exponentPart
  split
  · exact List.suffix_refl _
  · rename_i mark rest
    split
    · -- The sign, if there is one, is left out before the digits.
      have hbody : ∀ body, body <:+ rest →
          body.dropWhile Char.isDigit <:+ mark :: rest := fun body h =>
        ((List.dropWhile_suffix _).trans h).trans (List.suffix_cons _ _)
      dsimp only
      split
      · exact List.suffix_refl _
      · split
        · exact hbody _ (List.suffix_cons _ _)
        · exact hbody _ (List.suffix_cons _ _)
        · exact hbody _ (List.suffix_refl _)
    · exact List.suffix_refl _

/-- A number stays within its text. This is the one step that refuses digits,
and they are those it has just read. -/
theorem staysWithin_readMagnitude (start : List Char) (negative : Bool) (cs : List Char) :
    StaysWithin cs (readMagnitude start negative cs) := by
  unfold readMagnitude
  cases hwhole : wholeDigits? cs with
  | none => exact .of_issue _
  | some found =>
      obtain ⟨whole, rest⟩ := found
      obtain ⟨rfl, hdigits⟩ := wholeDigits?_eq_some hwhole
      have hleft : (exponentPart (fractionDigits rest).2).2 <:+ whole ++ rest :=
        ((exponentPart_suffix _).trans (fractionDigits_suffix rest)).trans
          (List.suffix_append _ _)
      dsimp only
      split
      · split
        · rename_i hmany
          refine ⟨nofun, fun n heq => ?_⟩
          cases heq
          exact ⟨hmany, whole, ⟨[], rest, rfl⟩, rfl, hdigits⟩
        · exact .of_ok hleft
      · exact .of_ok hleft

/-- The sign is one character more. -/
theorem staysWithin_readNumber (cs : List Char) : StaysWithin cs (readNumber cs) := by
  unfold readNumber
  split
  · exact (staysWithin_readMagnitude _ _ _).mono (List.suffix_cons _ _)
  · exact staysWithin_readMagnitude _ _ _

/-- A word is cut off the start of the text. -/
theorem staysWithin_word {cs : List Char} {found : Coded × List Char}
    (h : readWord? cs = some found) : StaysWithin cs (.ok found : Step Coded) := by
  obtain ⟨⟨word, value⟩, _, hfound⟩ := List.exists_of_findSome?_eq_some h
  dsimp only at hfound
  split at hfound
  · cases hfound
    exact .of_ok (List.drop_suffix _ _)
  · cases hfound

/-! ### Values -/

/-- With so much fuel the steps for values, items and fields stay within
their texts. -/
structure ReadsWithin (fuel : Nat) : Prop where
  value : ∀ cs, StaysWithin cs (readValue fuel cs)
  items : ∀ cs, StaysWithin cs (readItems fuel cs)
  fields : ∀ fields cs, StaysWithin cs (readFields fuel fields cs)

namespace ReadsWithin

variable {fuel : Nat} (h : ReadsWithin fuel)

include h

/-- One step of a value: each case stays within the text behind its first
character. -/
theorem value_succ (cs : List Char) : StaysWithin cs (readValue (fuel + 1) cs) := by
  rw [readValue.eq_def]
  dsimp only
  split
  · exact .of_issue _
  · exact ((staysWithin_readText _ _).map _).mono (List.suffix_cons _ _)
  · rename_i rest
    have hbody := (skipSpace_suffix rest).trans (List.suffix_cons '[' rest)
    split
    · rename_i left hclosed
      exact .of_ok ((hclosed ▸ List.suffix_cons ']' left).trans hbody)
    · exact ((h.items _).map _).mono hbody
  · rename_i rest
    have hbody := (skipSpace_suffix rest).trans (List.suffix_cons '\x7b' rest)
    split
    · rename_i left hclosed
      exact .of_ok ((hclosed ▸ List.suffix_cons '\x7d' left).trans hbody)
    · exact ((h.fields _ _).map _).mono hbody
  · split
    · rename_i hword
      exact staysWithin_word hword
    · exact staysWithin_readNumber _

/-- One step of a list: a value, and behind the comma the items that follow.
-/
theorem items_succ (cs : List Char) : StaysWithin cs (readItems (fuel + 1) cs) := by
  rw [readItems.eq_def]
  dsimp only
  have hitem := h.value cs
  cases hrun : readValue fuel cs with
  | error failure =>
      rw [hrun] at hitem
      exact hitem.of_error
  | ok found =>
      obtain ⟨item, left⟩ := found
      have hleft := (skipSpace_suffix left).trans (hitem.left item left hrun)
      dsimp only
      split
      · rename_i rest hend
        exact .of_ok ((hend ▸ List.suffix_cons ']' rest).trans hleft)
      · rename_i rest hcomma
        exact ((h.items _).map _).mono
          ((skipSpace_suffix rest).trans ((hcomma ▸ List.suffix_cons ',' rest).trans hleft))
      · exact .of_issue _

/-- One step of an object: a name, a value, and behind the comma the fields
that follow. -/
theorem fields_succ (fields : List (CodeText × Coded)) (cs : List Char) :
    StaysWithin cs (readFields (fuel + 1) fields cs) := by
  rw [readFields.eq_def]
  dsimp only
  split
  · rename_i rest
    have hname := staysWithin_readText ('"' :: rest) rest
    cases hrun : readText ('"' :: rest) rest with
    | error failure =>
        rw [hrun] at hname
        exact hname.of_error.mono (List.suffix_cons _ _)
    | ok found =>
        obtain ⟨name, left⟩ := found
        have hleft := (skipSpace_suffix left).trans
          ((hname.left name left hrun).trans (List.suffix_cons '"' rest))
        dsimp only
        split
        · -- Behind the colon the value, and behind that the next field or the end.
          rename_i after hcolon
          have hafter := (skipSpace_suffix after).trans
            ((hcolon ▸ List.suffix_cons ':' after).trans hleft)
          have hvalue := (h.value (skipSpace after)).mono hafter
          cases hrun' : readValue fuel (skipSpace after) with
          | error failure =>
              rw [hrun'] at hvalue
              exact hvalue.of_error
          | ok found =>
              obtain ⟨value, left'⟩ := found
              have hleft' := (skipSpace_suffix left').trans (hvalue.left value left' hrun')
              dsimp only
              split
              · rename_i rest' hend
                exact .of_ok ((hend ▸ List.suffix_cons '\x7d' rest').trans hleft')
              · rename_i rest' hcomma
                exact (h.fields _ _).mono ((skipSpace_suffix rest').trans
                  ((hcomma ▸ List.suffix_cons ',' rest').trans hleft'))
              · exact .of_issue _
        · exact .of_issue _
  · exact .of_issue _

end ReadsWithin

/-- The steps stay within their texts with any fuel: each calls the others
with less. -/
theorem readsWithin (fuel : Nat) : ReadsWithin fuel := by
  induction fuel with
  | zero => exact ⟨fun _ => .of_issue _, fun _ => .of_issue _, fun _ _ => .of_issue _⟩
  | succ fuel ih => exact ⟨ih.value_succ, ih.items_succ, ih.fields_succ⟩

/-- A document is refused for the digits of a number only if its text has as
many in a row, and more than a number may have. -/
theorem hasDigits_of_tooManyDigits {cs : List Char} {n : Nat}
    (h : read cs = .error (.tooManyDigits n)) : maxDigits < n ∧ HasDigits cs n := by
  have hdocument : readDocument cs = .error (.tooManyDigits n) := by
    rw [read, readCoded] at h
    split at h <;> cases h
    assumption
  rw [readDocument.eq_def] at hdocument
  split at hdocument
  · cases hdocument
  · have hvalue := ((readsWithin (2 * cs.length + 2)).value (skipSpace cs)).mono
      (skipSpace_suffix cs)
    split at hdocument
    · rename_i failure hrun
      cases hdocument
      exact hvalue.digits n hrun
    · split at hdocument <;> cases hdocument

end Json

end IdeProjects
