import IdeProjects.Text.Utf8
import Mathlib.Tactic.ByContra

/-!
# `IdeProjects.Proofs.Text.Utf8`: texts and their bytes

Files are compared as bytes, and that compares their texts: a text is
stored as the bytes `encode` gives, so two texts with the same bytes are
one (`encode_injective`).

Which bytes are texts is said by a table of the rows that stand for one
character (`Sequence`), and the reader of bytes is held against it from both
sides. It reads each sequence as its character
(`Sequence.piecesFrom_append`); and where it finds nothing malformed the
bytes start with a sequence (`exists_sequence`). The bytes that `encode`
writes for a character are its sequence, and the only one. So bytes can be
decoded if and only if they are those of a text (`decode_eq_ok_iff`).
-/

set_option autoImplicit false

namespace IdeProjects.Text.Utf8

/-- The bytes of a text are those it is stored as. -/
theorem toByteArray_encode (s : String) : (encode s).toByteArray = s.toByteArray := by
  rw [← String.utf8Encode_toList]
  rfl

/-- Texts with one encoding are one text, for the decoder brings both back. -/
theorem encode_injective {s r : String} (h : encode s = encode r) : s = r := by
  rw [← String.toByteArray_inj, ← toByteArray_encode, ← toByteArray_encode, h]

/-! ### The sequences of characters -/

/-- A byte that can follow the first one of a character. -/
def IsContinuation (b : UInt8) : Prop := 0x80 ≤ b.toNat ∧ b.toNat ≤ 0xBF

/-- The rows of bytes that are characters, each with its code point. The
conditions on second bytes shut out overlong forms, surrogates and values
past the last code point. -/
inductive Sequence : List UInt8 → Nat → Prop
  | one (b : UInt8) (hb : b.toNat < 0x80) : Sequence [b] b.toNat
  | two (b x : UInt8) (hb : 0xC2 ≤ b.toNat ∧ b.toNat < 0xE0) (hx : IsContinuation x) :
      Sequence [b, x] ((b.toNat - 0xC0) * 64 + (x.toNat - 0x80))
  | three (b x y : UInt8) (hb : 0xE0 ≤ b.toNat ∧ b.toNat < 0xF0) (hx : IsContinuation x)
      (hlow : b.toNat = 0xE0 → 0xA0 ≤ x.toNat) (hhigh : b.toNat = 0xED → x.toNat ≤ 0x9F)
      (hy : IsContinuation y) :
      Sequence [b, x, y] (((b.toNat - 0xE0) * 64 + (x.toNat - 0x80)) * 64 + (y.toNat - 0x80))
  | four (b x y z : UInt8) (hb : 0xF0 ≤ b.toNat ∧ b.toNat ≤ 0xF4) (hx : IsContinuation x)
      (hlow : b.toNat = 0xF0 → 0x90 ≤ x.toNat) (hhigh : b.toNat = 0xF4 → x.toNat ≤ 0x8F)
      (hy : IsContinuation y) (hz : IsContinuation z) :
      Sequence [b, x, y, z]
        ((((b.toNat - 0xF0) * 64 + (x.toNat - 0x80)) * 64 + (y.toNat - 0x80)) * 64 +
          (z.toNat - 0x80))

/-! ### The reader and the table -/

/-- What is read between characters, by the ranges of the byte. The same
decision in numbers, where the ranges of one byte can be compared with those
of the next by arithmetic. -/
theorem begin_eq (b : UInt8) : begin b =
    if b.toNat < 0x80 then ([.char (Char.ofNat b.toNat)], .start)
    else if b.toNat < 0xC2 then ([.malformed [b] .invalidStart], .start)
    else if b.toNat < 0xE0 then ([], .inside [b] (b.toNat - 0xC0) 1 0x80 0xBF)
    else if b.toNat < 0xF0 then
      ([], .inside [b] (b.toNat - 0xE0) 2 (if b.toNat = 0xE0 then 0xA0 else 0x80)
        (if b.toNat = 0xED then 0x9F else 0xBF))
    else if b.toNat ≤ 0xF4 then
      ([], .inside [b] (b.toNat - 0xF0) 3 (if b.toNat = 0xF0 then 0x90 else 0x80)
        (if b.toNat = 0xF4 then 0x8F else 0xBF))
    else ([.malformed [b] .invalidStart], .start) := by
  rw [begin]
  simp only [UInt8.lt_iff_toNat_lt, ← UInt8.toNat_inj, UInt8.reduceToNat]
  -- The ranges one after the other. In the last two the bounds for the
  -- second byte depend on the first.
  by_cases h1 : b.toNat < 0x80
  · simp only [if_pos h1]
  by_cases h2 : b.toNat < 0xC2
  · simp only [if_neg h1, if_pos h2]
  by_cases h3 : b.toNat < 0xE0
  · simp only [if_neg h1, if_neg h2, if_pos h3]
  simp only [if_neg h1, if_neg h2, if_neg h3]
  by_cases h4 : b.toNat < 0xF0
  · simp only [if_pos h4]
    by_cases hE0 : b.toNat = 0xE0
    · simp [hE0]
    by_cases hED : b.toNat = 0xED
    · simp [hED]
    · simp [hE0, hED]
  · have hE0 : b.toNat ≠ 0xE0 := by omega
    have hED : b.toNat ≠ 0xED := by omega
    simp only [if_neg h4, if_neg hE0, if_neg hED]
    by_cases hF0 : b.toNat = 0xF0
    · simp [hF0]
    by_cases hF4 : b.toNat = 0xF4
    · simp [hF4]
    have hle : b.toNat < 0xF4 ↔ b.toNat ≤ 0xF4 := by omega
    simp [hF0, hF4, hle]

/-- The last byte of a character. -/
theorem piecesFrom_last {seen rest : List UInt8} {value : Nat} {low high b : UInt8}
    (hlow : low ≤ b) (hhigh : b ≤ high) :
    piecesFrom (.inside seen value 1 low high) (b :: rest) =
      .char (Char.ofNat (value * 64 + (b.toNat - 0x80))) :: piecesFrom .start rest := by
  simp [piecesFrom, State.next, hlow, hhigh]

/-- A byte of a character before the last. -/
theorem piecesFrom_more {seen rest : List UInt8} {value owed : Nat} {low high b : UInt8}
    (howed : owed ≠ 1) (hlow : low ≤ b) (hhigh : b ≤ high) :
    piecesFrom (.inside seen value owed low high) (b :: rest) =
      piecesFrom (.inside (b :: seen) (value * 64 + (b.toNat - 0x80)) (owed - 1) 0x80 0xBF)
        rest := by
  simp [piecesFrom, State.next, hlow, hhigh, howed]

/-- Where nothing is malformed a byte follows that goes on with the character. -/
theorem exists_continuation {seen bytes : List UInt8} {value owed : Nat} {low high : UInt8}
    {cs : List Char}
    (h : piecesFrom (.inside seen value owed low high) bytes = cs.map .char) :
    ∃ b rest, bytes = b :: rest ∧ low ≤ b ∧ b ≤ high := by
  cases bytes with
  | nil =>
      rw [piecesFrom] at h
      cases cs <;> cases h
  | cons b rest =>
      refine ⟨b, rest, rfl, ?_⟩
      by_contra hnot
      have hno : (decide (low ≤ b) && decide (b ≤ high)) = false := by
        simpa using hnot
      rw [piecesFrom, State.next, hno] at h
      cases cs <;> cases h

/-- Between two sequences the next byte begins one. -/
theorem piecesFrom_cons (b : UInt8) (rest : List UInt8) :
    piecesFrom .start (b :: rest) = (begin b).1 ++ piecesFrom (begin b).2 rest := rfl

section

variable {p : Prop} [Decidable p] {b bound : UInt8}

/-- The lower bound of a second byte, which some first bytes raise. -/
theorem low_le_iff (hbound : 0x80 ≤ bound.toNat) :
    (if p then bound else 0x80) ≤ b ↔ 0x80 ≤ b.toNat ∧ (p → bound.toNat ≤ b.toNat) := by
  rw [UInt8.le_iff_toNat_le]
  split
  · rename_i hp
    exact ⟨fun h => ⟨Nat.le_trans hbound h, fun _ => h⟩, fun h => h.2 hp⟩
  · rename_i hp
    exact ⟨fun h => ⟨h, fun h' => absurd h' hp⟩, fun h => h.1⟩

/-- The upper bound, which some first bytes lower. -/
theorem le_high_iff (hbound : bound.toNat ≤ 0xBF) :
    b ≤ (if p then bound else 0xBF) ↔ b.toNat ≤ 0xBF ∧ (p → b.toNat ≤ bound.toNat) := by
  rw [UInt8.le_iff_toNat_le]
  split
  · rename_i hp
    exact ⟨fun h => ⟨Nat.le_trans h hbound, fun _ => h⟩, fun h => h.2 hp⟩
  · rename_i hp
    exact ⟨fun h => ⟨h, fun h' => absurd h' hp⟩, fun h => h.1⟩

/-- The bytes that go on with a sequence, as a range. -/
theorem isContinuation_iff : IsContinuation b ↔ 0x80 ≤ b ∧ b ≤ 0xBF := by
  rw [UInt8.le_iff_toNat_le, UInt8.le_iff_toNat_le]
  rfl

end

/-- A sequence is read as its character, whatever follows it. One case for
each length, by the ranges that its first byte sets for the second. -/
theorem Sequence.piecesFrom_append {seq : List UInt8} {v : Nat} (h : Sequence seq v)
    (rest : List UInt8) :
    piecesFrom .start (seq ++ rest) = .char (Char.ofNat v) :: piecesFrom .start rest := by
  -- Only the second byte of a sequence has a range set by the first.
  cases h with
  | one b hb =>
      rw [List.cons_append, piecesFrom_cons, begin_eq, if_pos hb]
      rfl
  | two b x hb hx =>
      rw [isContinuation_iff] at hx
      rw [List.cons_append, piecesFrom_cons, begin_eq, if_neg (by omega), if_neg (by omega),
        if_pos hb.2]
      exact piecesFrom_last hx.1 hx.2
  | three b x y hb hx hlow hhigh hy =>
      have hxlow : (if b.toNat = 0xE0 then (0xA0 : UInt8) else 0x80) ≤ x :=
        (low_le_iff (by decide)).mpr ⟨hx.1, hlow⟩
      have hxhigh : x ≤ (if b.toNat = 0xED then (0x9F : UInt8) else 0xBF) :=
        (le_high_iff (by decide)).mpr ⟨hx.2, hhigh⟩
      rw [isContinuation_iff] at hy
      rw [List.cons_append, piecesFrom_cons, begin_eq, if_neg (by omega), if_neg (by omega),
        if_neg (by omega), if_pos hb.2]
      exact (piecesFrom_more (by decide) hxlow hxhigh).trans (piecesFrom_last hy.1 hy.2)
  | four b x y z hb hx hlow hhigh hy hz =>
      have hxlow : (if b.toNat = 0xF0 then (0x90 : UInt8) else 0x80) ≤ x :=
        (low_le_iff (by decide)).mpr ⟨hx.1, hlow⟩
      have hxhigh : x ≤ (if b.toNat = 0xF4 then (0x8F : UInt8) else 0xBF) :=
        (le_high_iff (by decide)).mpr ⟨hx.2, hhigh⟩
      rw [isContinuation_iff] at hy hz
      rw [List.cons_append, piecesFrom_cons, begin_eq, if_neg (by omega), if_neg (by omega),
        if_neg (by omega), if_neg (by omega), if_pos hb.2]
      exact (piecesFrom_more (by decide) hxlow hxhigh).trans
        ((piecesFrom_more (by decide) hy.1 hy.2).trans (piecesFrom_last hz.1 hz.2))

/-- Where nothing is malformed the bytes start with a sequence. Every other
way for the first bytes to go on leaves a malformed piece behind. -/
theorem exists_sequence {b : UInt8} {bytes : List UInt8} {cs : List Char}
    (h : piecesFrom .start (b :: bytes) = cs.map .char) :
    ∃ seq v rest, b :: bytes = seq ++ rest ∧ Sequence seq v := by
  have hmalformed : ∀ {seen : List UInt8} {reason : Reason} {more : List Piece},
      Piece.malformed seen reason :: more ≠ cs.map .char := by
    cases cs <;> nofun
  -- By the first byte. Where the next one does not fit, a malformed piece
  -- would stand in `h`.
  rw [piecesFrom_cons, begin_eq] at h
  split at h
  · rename_i hb
    exact ⟨_, _, bytes, rfl, .one b hb⟩
  split at h
  · exact absurd h hmalformed
  split at h
  · obtain ⟨x, rest, rfl, hlow, hhigh⟩ := exists_continuation h
    exact ⟨_, _, rest, rfl, .two b x (by omega) (isContinuation_iff.mpr ⟨hlow, hhigh⟩)⟩
  split at h
  · obtain ⟨x, rest, rfl, hlow, hhigh⟩ := exists_continuation h
    rw [List.nil_append, piecesFrom_more (by decide) hlow hhigh] at h
    obtain ⟨y, rest, rfl, hy⟩ := exists_continuation h
    rw [low_le_iff (by decide)] at hlow
    rw [le_high_iff (by decide)] at hhigh
    exact ⟨_, _, rest, rfl, .three b x y (by omega) ⟨hlow.1, hhigh.1⟩ hlow.2 hhigh.2
      (isContinuation_iff.mpr hy)⟩
  split at h
  · obtain ⟨x, rest, rfl, hlow, hhigh⟩ := exists_continuation h
    rw [List.nil_append, piecesFrom_more (by decide) hlow hhigh] at h
    obtain ⟨y, rest, rfl, hylow, hyhigh⟩ := exists_continuation h
    rw [piecesFrom_more (by decide) hylow hyhigh] at h
    obtain ⟨z, rest, rfl, hz⟩ := exists_continuation h
    rw [low_le_iff (by decide)] at hlow
    rw [le_high_iff (by decide)] at hhigh
    exact ⟨_, _, rest, rfl, .four b x y z (by omega) ⟨hlow.1, hhigh.1⟩ hlow.2 hhigh.2
      (isContinuation_iff.mpr ⟨hylow, hyhigh⟩) (isContinuation_iff.mpr hz)⟩
  · exact absurd h hmalformed

/-! ### The writer and the table -/

/-- The bytes of a character are its sequence. -/
theorem sequence_encodeChar (c : Char) : Sequence (String.utf8EncodeChar c) c.toNat := by
  have hvalid : c.toNat < 0xD800 ∨ 0xDFFF < c.toNat ∧ c.toNat < 0x110000 := c.valid
  have hv : c.val.toNat = c.toNat := rfl
  -- The sequence has the value of the character, whichever bytes it is made of.
  have hseq : ∀ {seq : List UInt8} {v : Nat}, Sequence seq v → v = c.toNat → Sequence seq c.toNat :=
    fun h heq => heq ▸ h
  rw [String.utf8EncodeChar]
  simp only [hv]
  split
  · refine hseq (.one _ ?_) ?_ <;> rw [UInt8.toNat_ofNat'] <;> omega
  split
  · refine hseq (.two _ _ ?_ ?_) ?_ <;> simp only [IsContinuation, UInt8.toNat_ofNat'] <;> omega
  split
  · refine hseq (.three _ _ _ ?_ ?_ ?_ ?_ ?_) ?_ <;>
      simp only [IsContinuation, UInt8.toNat_ofNat'] <;> omega
  · refine hseq (.four _ _ _ _ ?_ ?_ ?_ ?_ ?_ ?_) ?_ <;>
      simp only [IsContinuation, UInt8.toNat_ofNat'] <;> omega

/-- And there is no other sequence for it: the character that a sequence
stands for is encoded as that sequence, since the ranges keep out the longer
forms. -/
theorem Sequence.encodeChar_ofNat {seq : List UInt8} {v : Nat} (h : Sequence seq v) :
    String.utf8EncodeChar (Char.ofNat v) = seq := by
  -- The ranges leave out the surrogates and end at the last character.
  have hvalid : v.isValidChar := by
    cases h <;> simp only [Nat.isValidChar, IsContinuation] at * <;> omega
  have hv : (Char.ofNat v).val.toNat = v := by
    rw [Char.ofNat, dif_pos hvalid]
    rfl
  rw [String.utf8EncodeChar]
  simp only [hv]
  cases h with
  | one b hb => rw [if_pos (by omega), UInt8.ofNat_toNat]
  | two b x hb hx =>
      simp only [IsContinuation] at hx
      rw [if_neg (by omega), if_pos (by omega)]
      simp only [List.cons.injEq, and_true, ← UInt8.toNat_inj, UInt8.toNat_ofNat']
      omega
  | three b x y hb hx hlow hhigh hy =>
      simp only [IsContinuation] at hx hy
      rw [if_neg (by omega), if_neg (by omega), if_pos (by omega)]
      simp only [List.cons.injEq, and_true, ← UInt8.toNat_inj, UInt8.toNat_ofNat']
      omega
  | four b x y z hb hx hlow hhigh hy hz =>
      simp only [IsContinuation] at hx hy hz
      rw [if_neg (by omega), if_neg (by omega), if_neg (by omega)]
      simp only [List.cons.injEq, and_true, ← UInt8.toNat_inj, UInt8.toNat_ofNat']
      omega

/-! ### Whole texts -/

/-- The bytes of a character are read as the character. -/
theorem piecesFrom_encodeChar (c : Char) (rest : List UInt8) :
    piecesFrom .start (String.utf8EncodeChar c ++ rest) = .char c :: piecesFrom .start rest := by
  rw [(sequence_encodeChar c).piecesFrom_append, Char.ofNat_toNat]

/-- The encoding of characters is cut into these characters: each sequence
ends where it should, and the next one begins. -/
theorem pieces_flatMap (cs : List Char) :
    pieces (cs.flatMap String.utf8EncodeChar) = cs.map .char := by
  rw [pieces]
  induction cs with
  | nil => rfl
  | cons c rest ih => rw [List.flatMap_cons, piecesFrom_encodeChar, ih, List.map_cons]

/-- Bytes without malformed parts are those of their characters, and the
characters' bytes have no malformed parts. By induction on the characters. -/
theorem pieces_eq_map_char_iff {bytes : List UInt8} {cs : List Char} :
    pieces bytes = cs.map .char ↔ bytes = cs.flatMap String.utf8EncodeChar := by
  refine ⟨fun h => ?_, fun h => h ▸ pieces_flatMap cs⟩
  rw [pieces] at h
  -- On the characters: the bytes of the first one are cut off.
  induction cs generalizing bytes with
  | nil =>
      cases bytes with
      | nil => rfl
      | cons b rest =>
          obtain ⟨seq, v, rest', heq, hseq⟩ := exists_sequence h
          rw [heq, hseq.piecesFrom_append] at h
          cases h
  | cons c cs ih =>
      cases bytes with
      | nil => cases h
      | cons b rest =>
          obtain ⟨seq, v, rest', heq, hseq⟩ := exists_sequence h
          rw [heq, hseq.piecesFrom_append, List.map_cons, List.cons.injEq,
            Piece.char.injEq] at h
          obtain ⟨rfl, hrest⟩ := h
          rw [List.flatMap_cons, hseq.encodeChar_ofNat, heq, ih hrest]

/-- Pieces give characters exactly if all of them are characters. The position
only tells a malformed piece where it stands. -/
theorem charsFrom_eq_ok_iff {position : Nat} {ps : List Piece} {cs : List Char} :
    charsFrom position ps = .ok cs ↔ ps = cs.map .char := by
  induction ps generalizing position cs with
  | nil => cases cs <;> simp [charsFrom]
  | cons p rest ih =>
      cases p with
      | malformed bytes reason => cases cs <;> simp [charsFrom]
      | char c =>
          rw [charsFrom]
          constructor
          · intro h
            cases hrest : charsFrom (position + c.utf8Size) rest with
            | error m =>
                rw [hrest] at h
                cases h
            | ok more =>
                rw [hrest] at h
                cases h
                rw [ih.mp hrest, List.map_cons]
          · intro h
            cases cs with
            | nil => cases h
            | cons c' more =>
                rw [List.map_cons, List.cons.injEq] at h
                obtain ⟨hc, hrest⟩ := h
                cases hc
                rw [ih.mpr hrest]
                rfl

/-- Bytes can be decoded if and only if they are those of a text, and then
they are decoded to its characters. -/
theorem decode_eq_ok_iff {bytes : List UInt8} {cs : List Char} :
    decode bytes = .ok cs ↔ bytes = encode (String.ofList cs) := by
  rw [decode, charsFrom_eq_ok_iff, pieces_eq_map_char_iff, encode, String.toList_ofList]

/-- A text is read back as it is, when malformed parts would be replaced. -/
theorem decodeLossy_encode (s : String) : decodeLossy (encode s) = s.toList := by
  rw [decodeLossy, encode, pieces_flatMap, List.map_map]
  exact List.map_id _

/-! ### ASCII -/

/-- Only the sequence of one byte has a value that small. -/
theorem Sequence.lt_of_lt {seq : List UInt8} {v : Nat} (h : Sequence seq v) (hv : v < 0x80) :
    ∀ b ∈ seq, b.toNat < 0x80 := by
  cases h with
  | one b hb => exact List.forall_mem_singleton.mpr hb
  | two b x hb hx => simp only [IsContinuation] at *; omega
  | three b x y hb hx hlow hhigh hy => simp only [IsContinuation] at *; omega
  | four b x y z hb hx hlow hhigh hy hz => simp only [IsContinuation] at *; omega

/-- Characters of ASCII are bytes of ASCII. -/
theorem encode_lt {s : String} (h : ∀ c ∈ s.toList, c.toNat < 0x80) :
    ∀ b ∈ encode s, b.toNat < 0x80 := by
  rw [encode, List.forall_mem_flatMap]
  exact fun c hc => (sequence_encodeChar c).lt_of_lt (h c hc)

end IdeProjects.Text.Utf8
