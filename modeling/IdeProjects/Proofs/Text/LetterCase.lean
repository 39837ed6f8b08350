import IdeProjects.Text.Case.Folding

/-!
# `IdeProjects.Proofs.Text.LetterCase`: the case of letters

`String.toLower` changes the letters of ASCII and nothing else, so two texts
that it makes equal differ in the case of such letters alone. A character
that is no letter stands in the same places in both (`toLower_eq_iff`), and
folding, which goes further, makes them equal too (`foldChars_map_toLower`).
All of it follows from how the numbers of the letters are moved
(`toNat_toLower`).
-/

set_option autoImplicit false

namespace IdeProjects

namespace Text

/-- The letters are known by their numbers. -/
theorem isAlpha_iff (c : Char) : c.isAlpha = true ↔
    (65 ≤ c.toNat ∧ c.toNat ≤ 90) ∨ (97 ≤ c.toNat ∧ c.toNat ≤ 122) := by
  have hcapital : c.isUpper = true ↔ 65 ≤ c.toNat ∧ c.toNat ≤ 90 := by
    show decide (c.val ≥ 'A'.val ∧ c.val ≤ 'Z'.val) = true ↔ _
    simp [UInt32.le_iff_toNat_le]
  have hsmall : c.isLower = true ↔ 97 ≤ c.toNat ∧ c.toNat ≤ 122 := by
    show (decide (c.val ≥ 'a'.val) && decide (c.val ≤ 'z'.val)) = true ↔ _
    simp [UInt32.le_iff_toNat_le]
  show (c.isUpper || c.isLower) = true ↔ _
  rw [Bool.or_eq_true, hcapital, hsmall]

/-- A capital letter is moved to its small one, and nothing else is moved. -/
theorem toNat_toLower (c : Char) : c.toLower.toNat =
    if 65 ≤ c.toNat ∧ c.toNat ≤ 90 then c.toNat + 32 else c.toNat := by
  have hcapital : (c.val ≥ 'A'.val ∧ c.val ≤ 'Z'.val) ↔ 65 ≤ c.toNat ∧ c.toNat ≤ 90 := by
    simp [UInt32.le_iff_toNat_le]
  simp only [← hcapital]
  unfold Char.toLower
  split
  · rename_i h
    obtain ⟨_, hlast⟩ := hcapital.mp h
    have hmoved : (c.val + ('a'.val - 'A'.val)).toNat = c.toNat + 32 := by
      rw [UInt32.toNat_add]
      exact Nat.mod_eq_of_lt (by simp; omega)
    exact hmoved
  · rfl

/-- A small letter is moved to its capital one, and nothing else is moved. -/
theorem toNat_toUpper (c : Char) : c.toUpper.toNat =
    if 97 ≤ c.toNat ∧ c.toNat ≤ 122 then c.toNat - 32 else c.toNat := by
  have hsmall : ('a'.val ≤ c.val ∧ c.val ≤ 'z'.val) ↔ 97 ≤ c.toNat ∧ c.toNat ≤ 122 := by
    simp [UInt32.le_iff_toNat_le]
  simp only [← hsmall]
  unfold Char.toUpper
  split
  · rename_i h
    obtain ⟨hfirst, hlast⟩ := hsmall.mp h
    -- The distance is negative, so the sum of the words wraps around.
    have hmoved : (c.val + ('A'.val - 'a'.val)).toNat = c.toNat - 32 := by
      have hdistance : ('A'.val - 'a'.val).toNat = 4294967264 := rfl
      rw [UInt32.toNat_add, hdistance, Char.toNat_val]
      omega
    exact hmoved
  · rfl

/-- Only a letter is the lower case of another character. -/
theorem toLower_eq_iff {c d : Char} (hd : d.isAlpha = false) : c.toLower = d ↔ c = d := by
  have hother := (isAlpha_iff d).mpr
  rw [← Char.toNat_inj, ← Char.toNat_inj, toNat_toLower]
  simp only [hd, Bool.false_eq_true, imp_false] at hother
  split <;> omega

/-- Only a letter is the upper case of another character. -/
theorem toUpper_eq_iff {c d : Char} (hd : d.isAlpha = false) : c.toUpper = d ↔ c = d := by
  have hother := (isAlpha_iff d).mpr
  rw [← Char.toNat_inj, ← Char.toNat_inj, toNat_toUpper]
  simp only [hd, Bool.false_eq_true, imp_false] at hother
  split <;> omega

/-- A text without letters is the lower case of itself alone. -/
theorem map_toLower_eq_iff {cs ds : List Char} (hds : ds.any Char.isAlpha = false) :
    cs.map Char.toLower = ds ↔ cs = ds := by
  induction cs generalizing ds with
  | nil => rw [List.map_nil]
  | cons c rest ih =>
      cases ds with
      | nil => simp
      | cons d others =>
          rw [List.any_cons, Bool.or_eq_false_iff] at hds
          rw [List.map_cons, List.cons.injEq, List.cons.injEq, toLower_eq_iff hds.1, ih hds.2]

/-- A text is made small character by character. -/
theorem toList_toLower (s : String) : s.toLower.toList = s.toList.map Char.toLower :=
  String.toList_map

/-- Only a text itself is made to one without letters. -/
theorem string_toLower_eq_iff {s t : String} (ht : t.toList.any Char.isAlpha = false) :
    s.toLower = t ↔ s = t := by
  rw [← String.toList_inj, ← String.toList_inj, toList_toLower, map_toLower_eq_iff ht]

/-- Folding does not see the case of a letter of ASCII. -/
theorem foldChar_toLower (c : Char) : foldChar c.toLower = foldChar c := by
  have hmoved := toNat_toLower c
  by_cases hc : 65 ≤ c.toNat ∧ c.toNat ≤ 90
  · rw [if_pos hc] at hmoved
    have hagain : c.toLower.toLower = c.toLower := by
      rw [← Char.toNat_inj, toNat_toLower c.toLower, if_neg (by omega)]
    rw [foldChar, foldChar, if_pos (by omega), if_pos (by omega), hagain]
  · rw [if_neg hc, Char.toNat_inj] at hmoved
    rw [hmoved]

/-- Folding does not tell small letters from capital ones. -/
theorem foldChars_map_toLower (cs : List Char) :
    foldChars (cs.map Char.toLower) = foldChars cs := by
  rw [foldChars, foldChars, List.flatMap_map]
  exact congrArg (cs.flatMap ·) (funext foldChar_toLower)

end Text

end IdeProjects
