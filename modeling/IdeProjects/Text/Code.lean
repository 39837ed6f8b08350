import IdeProjects.Text.Quoted

/-!
# `IdeProjects.Text.Code`: texts that hold halves of pairs

An escape in a JSON document can name half of a surrogate pair and leave
the other half out. Such a half has a number but is no character: no
`String` holds it, and no bytes in UTF-8 stand for it. A `CodeText` is a
text that may hold halves beside characters.

`DocumentText` is what documents ask of their texts. `String` is enough
for a document whose texts are all of characters, `CodeText` holds those
of any document. What is read from `String`s only takes a text with
halves for its repaired form, in which `U+FFFD` stands for each of them.
-/

set_option autoImplicit false

namespace IdeProjects

/-- One code of a text: a character, or half of a surrogate pair without
its other half, by its distance from the first of all halves. -/
inductive Code where
  | char (c : Char)
  | half (offset : Fin 0x800)
  deriving DecidableEq, Repr

namespace Code

/-- The number of the first half. -/
def firstHalf : Nat := 0xD800

/-- The number of a code. -/
def toNat : Code → Nat
  | .char c => c.toNat
  | .half offset => firstHalf + offset.val

/-- The code of a number. -/
def ofNat (n : Nat) : Code :=
  if h : firstHalf ≤ n ∧ n - firstHalf < 0x800 then .half ⟨n - firstHalf, h.2⟩
  else .char (Char.ofNat n)

/-- The number of a character is the number of no half. -/
theorem ofNat_toNat (c : Char) : ofNat c.toNat = .char c := by
  have hvalid : c.toNat < 0xD800 ∨ 0xDFFF < c.toNat ∧ c.toNat < 0x110000 := c.valid
  have hno : ¬ (firstHalf ≤ c.toNat ∧ c.toNat - firstHalf < 0x800) := by
    unfold firstHalf
    omega
  rw [ofNat, dif_neg hno, Char.ofNat_toNat]

/-- The character that stands for a code where only characters can. -/
def repaired : Code → Char
  | .char c => c
  | .half _ => '\uFFFD'

/-- One code inside a literal with the given quote; a half is never
printable. -/
def quoted (quote : Char) : Code → List Char
  | .char c => Text.quotedChar quote c
  | .half offset =>
    '\\' :: 'u' :: Text.Hex.digits Text.Hex.smallDigits 4 (firstHalf + offset.val)

end Code

/-- A text of any codes. -/
structure CodeText where
  codes : List Code
  deriving DecidableEq, Repr

namespace CodeText

/-- The text of the characters of a string. -/
def ofString (s : String) : CodeText := ⟨s.toList.map .char⟩

/-- The characters of a text, with `U+FFFD` for every half. -/
def repaired (t : CodeText) : String := String.ofList (t.codes.map Code.repaired)

/-- The literal of a text. No half is a quote, so the quotes are those of
the repaired text. -/
def quoted (t : CodeText) : String :=
  let quote := Text.quoteOf (t.codes.map Code.repaired)
  String.ofList (quote :: t.codes.flatMap (Code.quoted quote) ++ [quote])

end CodeText

/-- The types that the texts of a document can have. -/
class DocumentText (τ : Type) where
  /-- The text of the characters of a string. -/
  ofString : String → τ
  /-- The characters of a text, with `U+FFFD` for what is none. -/
  repaired : τ → String
  /-- The literal of a text in a message. -/
  quoted : τ → String
  /-- Whether a text comes before another or is equal to it. -/
  le : τ → τ → Bool
  /-- The codes of a text, each as a text. -/
  singles : τ → List τ
  repaired_ofString (s : String) : repaired (ofString s) = s
  /-- A text that shows no sign of a repair is the one of its characters. -/
  eq_ofString_of_repaired {t : τ} {s : String} (h : repaired t = s) (hs : '\uFFFD' ∉ s.toList) :
    t = ofString s

namespace DocumentText

instance : DocumentText String where
  ofString s := s
  repaired s := s
  quoted := Text.quoted
  le s r := s ≤ r
  singles s := s.toList.map String.singleton
  repaired_ofString _ := rfl
  eq_ofString_of_repaired h _ := h

/-- For texts of characters the embedding is the text itself. -/
@[simp]
theorem ofString_string (s : String) : (ofString s : String) = s := rfl

/-- They need no repair. -/
@[simp]
theorem repaired_string (s : String) : repaired s = s := rfl

/-- A repair gives a text without its sign for that text alone. -/
theorem repaired_eq_iff {τ : Type} [DocumentText τ] {t : τ} {s : String}
    (hs : '\uFFFD' ∉ s.toList) : repaired t = s ↔ t = ofString s := by
  refine ⟨fun h => eq_ofString_of_repaired h hs, ?_⟩
  rintro rfl
  exact repaired_ofString s

end DocumentText

namespace CodeText

/-- A row of codes of characters is repaired to these characters. -/
theorem repaired_ofString (s : String) : (ofString s).repaired = s := by
  have hself : Code.repaired ∘ Code.char = id := rfl
  rw [repaired, ofString, List.map_map, hself, List.map_id, String.ofList_toList]

/-- A half is repaired to a character that no text without halves needs, so a
text is given back by its repaired form if that has no such character. -/
theorem eq_ofString_of_repaired {t : CodeText} {s : String} (h : t.repaired = s)
    (hs : '\uFFFD' ∉ s.toList) : t = ofString s := by
  subst h
  obtain ⟨codes⟩ := t
  rw [repaired, String.toList_ofList] at hs
  have hchars : (codes.map Code.repaired).map Code.char = codes := by
    rw [List.map_map]
    refine (List.map_congr_left fun code hcode => ?_).trans (List.map_id codes)
    cases code with
    | char c => rfl
    | half offset => exact absurd (List.mem_map.mpr ⟨Code.half offset, hcode, rfl⟩) hs
  rw [repaired, ofString, String.toList_ofList, hchars]

instance : DocumentText CodeText where
  ofString := ofString
  repaired := repaired
  quoted := quoted
  le t u := !(u.codes.map Code.toNat).lex (t.codes.map Code.toNat) Nat.blt
  singles t := t.codes.map fun code => ⟨[code]⟩
  repaired_ofString := repaired_ofString
  eq_ofString_of_repaired := eq_ofString_of_repaired

end CodeText

end IdeProjects
