import IdeProjects.Json.Reader
import IdeProjects.Json.Writer
import Mathlib.Data.List.TakeWhile

/-!
# `IdeProjects.Proofs.Json.Number`: a whole number is read as it was written

A whole number is written with the digits of its size and, if it is negative,
a sign. The reader takes a zero alone or digits that start with none, so it
matters that no other number is written with a zero in front
(`ne_zero_of_head?_toDigits`). What follows the number must not carry it on
(`EndsNumber`): no digit, and neither a fraction nor an exponent.
-/

set_option autoImplicit false

namespace IdeProjects

namespace Json

/-- What follows does not carry a whole number on. -/
def EndsNumber (rest : List Char) : Prop :=
  ∀ c ∈ rest.head?, c.isDigit = false ∧ c ≠ '.' ∧ c ≠ 'e' ∧ c ≠ 'E'

/-! ### Digits -/

/-- A number other than zero is written with another digit in front. -/
theorem ne_zero_of_head?_toDigits {m : Nat} (h : m ≠ 0) :
    ∀ d ∈ (Nat.toDigits 10 m).head?, d ≠ '0' := by
  induction m using Nat.strongRecOn with
  | ind m ih =>
      rw [Nat.toDigits_eq_if (by decide)]
      split
      · rename_i hlt
        have hall : ∀ n < 10, n ≠ 0 → n.digitChar ≠ '0' := by decide
        simpa using hall m hlt h
      · -- The last digit is cut off, and what is left is no zero.
        rename_i hge
        obtain ⟨e, es, hes⟩ := List.exists_cons_of_ne_nil
          (Nat.toDigits_ne_nil (n := m / 10) (b := 10))
        have hfirst := ih (m / 10) (by omega) (by omega)
        rw [hes] at hfirst ⊢
        exact hfirst

/-- Digits have the value of the number that they were made of. -/
theorem digitsValue_toDigits (m : Nat) : digitsValue (Nat.toDigits 10 m) = m := by
  have hvalue := Nat.ofDigitChars_ten_toDigits (n := m)
  rw [Nat.ofDigitChars_eq_foldl] at hvalue
  simpa only [digitsValue, Nat.mul_comm] using hvalue

section

variable {rest : List Char}

/-- What ends a number does not start with a digit. -/
theorem takeWhile_isDigit_of_endsNumber (h : EndsNumber rest) : rest.takeWhile Char.isDigit = [] := by
  cases rest with
  | nil => rfl
  | cons c more => simp [(h c rfl).1]

/-- So no digit is dropped from it. -/
theorem dropWhile_isDigit_of_endsNumber (h : EndsNumber rest) :
    rest.dropWhile Char.isDigit = rest := by
  cases rest with
  | nil => rfl
  | cons c more => simp [(h c rfl).1]

/-- The digits of a number are all of them, up to its end. -/
theorem wholeDigits?_toDigits (m : Nat) (h : EndsNumber rest) :
    wholeDigits? (Nat.toDigits 10 m ++ rest) = some (Nat.toDigits 10 m, rest) := by
  by_cases hzero : m = 0
  · subst hzero
    rfl
  · have hdigit : ∀ c ∈ Nat.toDigits 10 m, c.isDigit = true := fun c hc =>
      Nat.isDigit_of_mem_toDigits (by decide) (by decide) hc
    obtain ⟨d, ds, hds⟩ := List.exists_cons_of_ne_nil (Nat.toDigits_ne_nil (n := m) (b := 10))
    have hd : d ≠ '0' := ne_zero_of_head?_toDigits hzero d (by rw [hds]; rfl)
    rw [hds] at hdigit ⊢
    obtain ⟨hfirst, hmore⟩ := List.forall_mem_cons.mp hdigit
    rw [List.cons_append, wholeDigits?, if_neg hd, if_pos hfirst,
      List.takeWhile_append_of_pos hmore, List.dropWhile_append_of_pos hmore,
      takeWhile_isDigit_of_endsNumber h, dropWhile_isDigit_of_endsNumber h, List.append_nil]

/-- It starts with no point, so there is no fraction. -/
theorem fractionDigits_of_endsNumber (h : EndsNumber rest) : fractionDigits rest = ([], rest) := by
  unfold fractionDigits
  split
  · exact absurd rfl (h '.' rfl).2.1
  · rfl

/-- It starts with no mark, so there is no exponent. -/
theorem exponentPart_of_endsNumber (h : EndsNumber rest) : exponentPart rest = (none, rest) := by
  cases rest with
  | nil => rfl
  | cons c more =>
      obtain ⟨_, _, he, hE⟩ := h c rfl
      simp [exponentPart, he, hE]

/-- The size of a number, when it is not too long. -/
theorem readMagnitude_toDigits (start : List Char) (negative : Bool) {m : Nat}
    (hlong : (Nat.toDigits 10 m).length ≤ maxDigits) (h : EndsNumber rest) :
    readMagnitude start negative (Nat.toDigits 10 m ++ rest) =
      .ok (.integer (if negative then -(m : Int) else m), rest) := by
  rw [readMagnitude, wholeDigits?_toDigits m h]
  simp [fractionDigits_of_endsNumber h, exponentPart_of_endsNumber h, Nat.not_lt.mpr hlong,
    digitsValue_toDigits]

/-! ### Signs -/

/-- The text of a whole number: the digits of its size behind its sign. -/
theorem toList_toString (n : Int) :
    (toString n).toList =
      if 0 ≤ n then Nat.toDigits 10 n.natAbs else '-' :: Nat.toDigits 10 n.natAbs := by
  rw [Int.toString_eq_repr, Int.repr_eq_if]
  split
  · have habs : n.toNat = n.natAbs := by omega
    rw [habs, Nat.repr_eq_ofList_toDigits, String.toList_ofList]
  · have habs : (-n).toNat = n.natAbs := by omega
    rw [habs, String.toList_append, Nat.repr_eq_ofList_toDigits, String.toList_ofList]
    simp

/-- A whole number is read as it was written, and what follows it is left. The
two cases are those of the sign. -/
theorem readNumber_toString {n : Int} (hlong : isLong n = false) (h : EndsNumber rest) :
    readNumber ((toString n).toList ++ rest) = .ok (.integer n, rest) := by
  have hlong' : (Nat.toDigits 10 n.natAbs).length ≤ maxDigits := by
    simpa [isLong] using hlong
  rw [toList_toString]
  split
  · rename_i hsign
    obtain ⟨d, ds, hds⟩ := List.exists_cons_of_ne_nil
      (Nat.toDigits_ne_nil (n := n.natAbs) (b := 10))
    have hd : d ≠ '-' := by
      rintro rfl
      have hdigit := Nat.isDigit_of_mem_toDigits (b := 10) (n := n.natAbs) (c := '-')
        (by decide) (by decide) (by simp [hds])
      cases hdigit
    have hread := readMagnitude_toDigits (Nat.toDigits 10 n.natAbs ++ rest) false hlong' h
    rw [hds, List.cons_append] at hread ⊢
    rw [readNumber, hread]
    · rw [if_neg Bool.false_ne_true, Int.natAbs_of_nonneg hsign]
    · simp [hd]
  · rename_i hsign
    rw [List.cons_append, readNumber, readMagnitude_toDigits _ _ hlong' h]
    have habs : -(n.natAbs : Int) = n := by omega
    rw [if_pos rfl, habs]

end

end Json

end IdeProjects
