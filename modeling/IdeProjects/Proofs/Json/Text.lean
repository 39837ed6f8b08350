import IdeProjects.Json.Reader
import IdeProjects.Json.Writer
import IdeProjects.Proofs.Text.Hex

/-!
# `IdeProjects.Proofs.Json.Text`: a text is read as it was written

A document is written in ASCII, and what a text holds beyond that stands there
as escapes by number. A character is written in one of three ways
(`writeChar_cases`), and the reader takes codes first and joins them to
characters afterwards. Both halves are shown for one character and then for a
text: the codes that are read are those of the characters
(`textCodes_flatMap_writeChar`), and codes of characters are joined to the
characters again (`joinCodes_flatMap_codesOf`), for a character of the basic
plane is no half of a pair and the others are written as a pair.
-/

set_option autoImplicit false

namespace IdeProjects

namespace Json

/-! ### What is written for a character -/

/-- The codes that a character is written as. -/
def codesOf (c : Char) : List Nat :=
  if c.toNat < 0x10000 then [c.toNat]
  else [0xD800 + (c.toNat - 0x10000) / 0x400, 0xDC00 + (c.toNat - 0x10000) % 0x400]

/-- Each code fits in four digits, for there are seventeen planes. -/
theorem codesOf_lt (c : Char) : ∀ code ∈ codesOf c, code < 0x10000 := by
  have hvalid : c.toNat < 0xD800 ∨ 0xDFFF < c.toNat ∧ c.toNat < 0x110000 := c.valid
  unfold codesOf
  split
  · rename_i hplane
    exact List.forall_mem_singleton.mpr hplane
  · simp only [List.forall_mem_cons, List.not_mem_nil, false_implies, implies_true, and_true]
    omega

/-- A character is written as an escape of one letter, as itself, or as the
escapes of its codes. -/
theorem writeChar_cases (c : Char) :
    (∃ letter ∈ ['"', '\\', 'n', 'r', 't', 'b', 'f'], writeChar c = ['\\', letter] ∧
      escapeCode? letter = some c.toNat ∧ codesOf c = [c.toNat]) ∨
    (c ≠ '"' ∧ c ≠ '\\' ∧ 0x20 ≤ c.toNat ∧ c.toNat < 0x7F) ∧ writeChar c = [c] ∨
    writeChar c = (codesOf c).flatMap codeEscape := by
  by_cases hletter : c ∈ ['"', '\\', '\n', '\r', '\t', '\x08', '\x0c']
  · simp only [List.mem_cons, List.not_mem_nil, or_false] at hletter
    left
    rcases hletter with rfl | rfl | rfl | rfl | rfl | rfl | rfl <;>
      exact ⟨_, by decide, rfl, rfl, rfl⟩
  · simp only [List.mem_cons, List.not_mem_nil, or_false, not_or] at hletter
    obtain ⟨hquote, hbackslash, hn, hr, ht, hb, hf⟩ := hletter
    simp only [writeChar, hquote, hbackslash, hn, hr, ht, hb, hf, if_false]
    right
    split
    · rename_i hprintable
      rw [Bool.and_eq_true, decide_eq_true_eq, decide_eq_true_eq] at hprintable
      exact Or.inl ⟨⟨hquote, hbackslash, hprintable⟩, rfl⟩
    · right
      unfold codesOf
      split <;> simp

/-! ### Escapes by number -/

/-- Four digits stand for the number that they were made of. -/
theorem exists_fourDigits {code : Nat} (h : code < 0x10000) :
    ∃ a b c d, Text.Hex.digits Text.Hex.smallDigits 4 code = [a, b, c, d] ∧
      fourDigits? a b c d = some code := by
  refine ⟨_, _, _, _, rfl, ?_⟩
  have hvalue : ∀ n, Text.Hex.value? (Text.Hex.smallDigits.getD (n % 16) '0') = some (n % 16) :=
    fun n => Text.Hex.value?_getD (Or.inl rfl) (Nat.mod_lt n (by decide))
  simp only [fourDigits?, hvalue, Option.bind_eq_bind, Option.bind_some, Option.pure_def,
    Option.some.injEq]
  omega

section

variable {opening tail left : List Char} {codes : List Nat}

/-- An escape by number gives its code, since the text goes on behind it. -/
theorem textCodes_codeEscape {code : Nat} (h : code < 0x10000) (hne : tail ≠ [])
    (htail : textCodes opening tail = .ok (codes, left)) :
    textCodes opening (codeEscape code ++ tail) = .ok (code :: codes, left) := by
  obtain ⟨a, b, c, d, hdigits, hvalue⟩ := exists_fourDigits h
  obtain ⟨e, rest, rfl⟩ := List.exists_cons_of_ne_nil hne
  rw [codeEscape, hdigits]
  simp [textCodes, hvalue, htail, Except.map]

/-- Escapes by number in a row give their codes. -/
theorem textCodes_flatMap_codeEscape {more : List Nat} (h : ∀ code ∈ more, code < 0x10000)
    (hne : tail ≠ []) (htail : textCodes opening tail = .ok (codes, left)) :
    textCodes opening (more.flatMap codeEscape ++ tail) = .ok (more ++ codes, left) := by
  induction more with
  | nil => exact htail
  | cons code more ih =>
      obtain ⟨hcode, hmore⟩ := List.forall_mem_cons.mp h
      rw [List.flatMap_cons, List.append_assoc]
      exact textCodes_codeEscape hcode (by simp [hne]) (ih hmore)

/-- An escape of one letter gives its code. -/
theorem textCodes_letter {letter : Char} {code : Nat} (hu : letter ≠ 'u')
    (hletter : escapeCode? letter = some code)
    (htail : textCodes opening tail = .ok (codes, left)) :
    textCodes opening ('\\' :: letter :: tail) = .ok (code :: codes, left) := by
  rw [textCodes]
  · simp [hletter, htail, Except.map]
  · simp [hu]
  · simp [hu]

/-- A character that stands for itself gives its code. -/
theorem textCodes_printable {c : Char} (hquote : c ≠ '"') (hbackslash : c ≠ '\\')
    (hlow : 0x20 ≤ c.toNat) (htail : textCodes opening tail = .ok (codes, left)) :
    textCodes opening (c :: tail) = .ok (c.toNat :: codes, left) := by
  have hlow' : ¬ c.toNat < 0x20 := Nat.not_lt.mpr hlow
  rw [textCodes]
  · simp [hlow', htail, Except.map]
  · simp [hquote]
  · simp [hbackslash]
  · simp [hbackslash]
  · simp [hbackslash]
  · simp [hbackslash]

/-- What is written for a character gives its codes. -/
theorem textCodes_writeChar (c : Char) (hne : tail ≠ [])
    (htail : textCodes opening tail = .ok (codes, left)) :
    textCodes opening (writeChar c ++ tail) = .ok (codesOf c ++ codes, left) := by
  rcases writeChar_cases c with ⟨letter, hmem, hwritten, hletter, hcodes⟩ |
    ⟨⟨hquote, hbackslash, hlow, hhigh⟩, hwritten⟩ | hwritten
  · have hu : letter ≠ 'u' := fun hu => absurd (hu ▸ hmem) (by decide)
    rw [hwritten, hcodes]
    exact textCodes_letter hu hletter htail
  · have hplane : c.toNat < 0x10000 := by omega
    rw [hwritten, codesOf, if_pos hplane]
    exact textCodes_printable hquote hbackslash hlow htail
  · rw [hwritten]
    exact textCodes_flatMap_codeEscape (codesOf_lt c) hne htail

/-- What is written for characters gives their codes. -/
theorem textCodes_flatMap_writeChar (opening cs rest : List Char) :
    textCodes opening (cs.flatMap writeChar ++ '"' :: rest) = .ok (cs.flatMap codesOf, rest) := by
  induction cs with
  | nil => rw [List.flatMap_nil, List.nil_append, textCodes, List.flatMap_nil]
  | cons c cs ih =>
      rw [List.flatMap_cons, List.flatMap_cons, List.append_assoc]
      exact textCodes_writeChar c (by simp) ih

end

/-! ### Pairs -/

/-- The codes of a character are joined to it: one that needs a single code is
no half of a pair. -/
theorem joinCodes_codesOf_append (c : Char) (codes : List Nat) :
    joinCodes (codesOf c ++ codes) = .char c :: joinCodes codes := by
  have hvalid : c.toNat < 0xD800 ∨ 0xDFFF < c.toNat ∧ c.toNat < 0x110000 := c.valid
  by_cases hplane : c.toNat < 0x10000
  · have hhigh : isHighSurrogate c.toNat = false := by
      simp only [isHighSurrogate, Bool.and_eq_false_iff, decide_eq_false_iff_not]
      omega
    rw [codesOf, if_pos hplane]
    cases codes with
    | nil => simp [joinCodes, Code.ofNat_toNat]
    | cons code more => simp [joinCodes, hhigh, Code.ofNat_toNat]
  · have hhigh : isHighSurrogate (0xD800 + (c.toNat - 0x10000) / 0x400) = true := by
      simp only [isHighSurrogate, Bool.and_eq_true, decide_eq_true_eq]
      omega
    have hlow : isLowSurrogate (0xDC00 + (c.toNat - 0x10000) % 0x400) = true := by
      simp only [isLowSurrogate, Bool.and_eq_true, decide_eq_true_eq]
      omega
    have hsum : 0x10000 + (0xD800 + (c.toNat - 0x10000) / 0x400 - 0xD800) * 0x400 +
        (0xDC00 + (c.toNat - 0x10000) % 0x400 - 0xDC00) = c.toNat := by
      omega
    rw [codesOf, if_neg hplane, List.cons_append, List.cons_append, List.nil_append, joinCodes,
      hhigh, hlow, hsum, Char.ofNat_toNat]
    rfl

/-- The codes that characters are written as are joined to these characters: a
pair only where there was one. -/
theorem joinCodes_flatMap_codesOf (cs : List Char) :
    joinCodes (cs.flatMap codesOf) = cs.map .char := by
  induction cs with
  | nil => rfl
  | cons c cs ih => rw [List.flatMap_cons, joinCodes_codesOf_append, ih, List.map_cons]

/-- A text is read as it was written, and what follows it is left. -/
theorem readText_writeText (s : String) (opening rest : List Char) :
    readText opening (s.toList.flatMap writeChar ++ '"' :: rest) =
      .ok (.ofString s, rest) := by
  rw [readText, textCodes_flatMap_writeChar]
  simp only [Except.map, joinCodes_flatMap_codesOf, CodeText.ofString]

end Json

end IdeProjects
