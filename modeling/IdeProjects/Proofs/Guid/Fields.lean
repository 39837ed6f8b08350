import IdeProjects.Proofs.Guid
import IdeProjects.Proofs.Text.Hex
import IdeProjects.Proofs.Text.Utf8

/-!
# `IdeProjects.Proofs.Guid.Fields`: an identifier keeps the whole digest

What reads an identifier takes it as a number of four bytes, two numbers of
two bytes and eight single bytes (`Fields`), and has its numbers in memory
with the least byte first. Written in that order the bytes of the fields are
the bytes that the identifier was made of (`bytes_of_layout`), for any sixteen
bytes. So an identifier is another form of the digest of the name, with
nothing left out: two names have one identifier exactly if they have one
digest (`ofName_keepsDigest`).

The digest is of the encoding of the name in UTF-8, which every text of
characters has. A name with half of a surrogate pair has none, and so no
identifier either.
-/

set_option autoImplicit false

namespace IdeProjects

namespace Guid

/-! ### The form of an identifier and its fields -/

/-- Groups of 8, 4, 4, 4 and 12 capital digits, with dashes between them. -/
def IsIdentifier (text : List Char) : Prop :=
  ∃ a b c d e : List Char, text = ['-'].intercalate [a, b, c, d, e] ∧
    [a, b, c, d, e].map List.length = [8, 4, 4, 4, 12] ∧
    ∀ digits ∈ [a, b, c, d, e], ∀ x ∈ digits, x ∈ Text.Hex.capitalDigits

/-- What an identifier is read as. -/
structure Fields where
  first : UInt32
  second : UInt16
  third : UInt16
  rest : List UInt8
  deriving DecidableEq, Repr

/-- The bytes of the fields in memory: each number has its least byte
first. -/
def Fields.bytes (f : Fields) : List UInt8 :=
  Md5.lowBytes 4 f.first.toNat ++ Md5.lowBytes 2 f.second.toNat ++
    Md5.lowBytes 2 f.third.toNat ++ f.rest

/-- Bytes read one by one, of two digits each. -/
def bytes? : List Char → Option (List UInt8)
  | [] => some []
  | [_] => none
  | high :: low :: others => do
    let b ← Text.Hex.number? [high, low]
    let bytes ← bytes? others
    return UInt8.ofNat b :: bytes

/-- Reads an identifier: its first three groups are numbers, the others
bytes. -/
def Fields.ofText? (text : List Char) : Option Fields :=
  match text.splitOn '-' with
  | [a, b, c, d, e] =>
    if [a, b, c, d, e].map List.length = [8, 4, 4, 4, 12] then do
      let first ← Text.Hex.number? a
      let second ← Text.Hex.number? b
      let third ← Text.Hex.number? c
      let inFourth ← bytes? d
      let inFifth ← bytes? e
      return ⟨.ofNat first, .ofNat second, .ofNat third, inFourth ++ inFifth⟩
    else none
  | _ => none

/-! ### The groups that are written -/

/-- A group has two digits for each of its bytes. -/
theorem length_group (bytes : List UInt8) : (group bytes).length = 2 * bytes.length := by
  induction bytes with
  | nil => rfl
  | cons b bytes ih =>
      have hbyte : (byteDigits b).length = 2 := Text.Hex.length_digits _ 2 b.toNat
      rw [group] at ih
      rw [group, List.flatMap_cons, List.length_append, hbyte, ih, List.length_cons]
      omega

/-- The groups of sixteen bytes have as many digits as an identifier has. -/
theorem map_length_groups {bytes : List UInt8} (h : bytes.length = 16) :
    (groups bytes).map List.length = [8, 4, 4, 4, 12] := by
  simp [groups, length_group, h]

/-- No group has a dash, so the dashes of an identifier are those between its
groups. -/
theorem dash_not_mem_groups {bytes : List UInt8} {cs : List Char} (hcs : cs ∈ groups bytes) :
    '-' ∉ cs :=
  fun h => absurd (mem_groups hcs h) (by decide)

/-- Sixteen bytes are written in the form of an identifier. -/
theorem isIdentifier_layout {bytes : List UInt8} (h : bytes.length = 16) :
    IsIdentifier (layout bytes) :=
  ⟨_, _, _, _, _, rfl, map_length_groups h, fun _ hdigits _ hx => mem_groups hdigits hx⟩

/-- With its dashes an identifier has 36 characters. -/
theorem IsIdentifier.length_eq {text : List Char} (h : IsIdentifier text) : text.length = 36 := by
  obtain ⟨a, b, c, d, e, rfl, hlengths, _⟩ := h
  simp only [List.map_cons, List.map_nil, List.cons.injEq, and_true] at hlengths
  simp only [List.intercalate_cons_cons, List.intercalate_singleton, List.length_append,
    List.length_singleton]
  omega

/-! ### Reading the groups -/

/-- The number that bytes with the least one first stand for. -/
def leastFirst : List UInt8 → Nat
  | [] => 0
  | b :: bytes => b.toNat + 256 * leastFirst bytes

/-- A number of some bytes is below the power that they can hold. -/
theorem leastFirst_lt {bytes : List UInt8} {width : Nat} (h : bytes.length = width) :
    leastFirst bytes < 256 ^ width := by
  subst h
  induction bytes with
  | nil => decide
  | cons b bytes ih =>
      have hb := b.toNat_lt
      rw [leastFirst, List.length_cons, Nat.pow_succ]
      omega

/-- The low bytes of the number are the bytes. -/
theorem lowBytes_leastFirst {bytes : List UInt8} {width : Nat} (h : bytes.length = width) :
    Md5.lowBytes width (leastFirst bytes) = bytes := by
  subst h
  induction bytes with
  | nil => rfl
  | cons b bytes ih =>
      have hb := b.toNat_lt
      have hlow : (b.toNat + 256 * leastFirst bytes) % 256 = b.toNat := by omega
      have hhigh : (b.toNat + 256 * leastFirst bytes) / 256 = leastFirst bytes := by omega
      rw [leastFirst, List.length_cons, Md5.lowBytes, hlow, hhigh, ih, UInt8.ofNat_toNat]

/-- A group that shows its greatest byte first is the number of the bytes. -/
theorem number?_group_reverse (bytes : List UInt8) :
    Text.Hex.number? (group bytes.reverse) = some (leastFirst bytes) := by
  induction bytes with
  | nil => rfl
  | cons b bytes ih =>
      have hb : b.toNat % 16 ^ 2 = b.toNat := Nat.mod_eq_of_lt b.toNat_lt
      have hlast : group (b :: bytes).reverse = group bytes.reverse ++ byteDigits b := by
        simp [group]
      rw [hlast, byteDigits, Text.Hex.number?_append_digits (Or.inr rfl) ih, hb, leastFirst]
      congr 1
      omega

/-- A group that shows its bytes in their order is read one by one. -/
theorem bytes?_group (bytes : List UInt8) : bytes? (group bytes) = some bytes := by
  induction bytes with
  | nil => rfl
  | cons b bytes ih =>
      have hb : b.toNat % 16 ^ 2 = b.toNat := Nat.mod_eq_of_lt b.toNat_lt
      have hnumber : Text.Hex.number? (byteDigits b) = some b.toNat := by
        rw [byteDigits, Text.Hex.number?_digits (Or.inr rfl), hb]
      obtain ⟨high, low, hdigits⟩ : ∃ high low, byteDigits b = [high, low] := ⟨_, _, rfl⟩
      rw [hdigits] at hnumber
      rw [group] at ih
      rw [group, List.flatMap_cons, hdigits, List.cons_append, List.cons_append, List.nil_append,
        bytes?, hnumber, ih]
      simp

/-! ### Reading an identifier -/

/-- Sixteen bytes as an identifier shows them. -/
theorem take_append_groups (bytes : List UInt8) :
    bytes.take 4 ++ (bytes.drop 4).take 2 ++ (bytes.drop 6).take 2 ++
      ((bytes.drop 8).take 2 ++ bytes.drop 10) = bytes := by
  have htail : ∀ k n, (bytes.drop k).take n ++ bytes.drop (k + n) = bytes.drop k := by
    intro k n
    rw [← List.drop_drop, List.take_append_drop]
  rw [htail 8 2, List.append_assoc, htail 6 2, List.append_assoc, htail 4 2,
    List.take_append_drop]

/-- Sixteen bytes that are written are read again. The dashes give the groups
back, each group gives its number, and each number fits in its field. -/
theorem bytes_of_layout {bytes : List UInt8} (h : bytes.length = 16) :
    (Fields.ofText? (layout bytes)).map Fields.bytes = some bytes := by
  have hsplit : (layout bytes).splitOn '-' = groups bytes :=
    List.splitOn_intercalate '-' (fun _ hcs => dash_not_mem_groups hcs) (by simp [groups])
  have hlengths := map_length_groups h
  have hfirst : (bytes.take 4).length = 4 := by
    rw [List.length_take]
    omega
  have hsecond : ((bytes.drop 4).take 2).length = 2 := by
    rw [List.length_take, List.length_drop]
    omega
  have hthird : ((bytes.drop 6).take 2).length = 2 := by
    rw [List.length_take, List.length_drop]
    omega
  rw [groups] at hsplit hlengths
  rw [Fields.ofText?, hsplit]
  simp only [if_pos hlengths, number?_group_reverse, bytes?_group, Option.bind_eq_bind,
    Option.bind_some, Option.pure_def, Option.map_some, Option.some.injEq, Fields.bytes]
  -- Each number fits in its field, so that the field holds all of its bytes.
  rw [UInt32.toNat_ofNat_of_lt' (leastFirst_lt hfirst),
    UInt16.toNat_ofNat_of_lt' (leastFirst_lt hsecond),
    UInt16.toNat_ofNat_of_lt' (leastFirst_lt hthird), lowBytes_leastFirst hfirst,
    lowBytes_leastFirst hsecond, lowBytes_leastFirst hthird]
  exact take_append_groups bytes

/-- The numbers show their bytes from the last to the first. -/
example : layout [0x00, 0x11, 0x22, 0x33, 0x44, 0x55, 0x66, 0x77,
    0x88, 0x99, 0xAA, 0xBB, 0xCC, 0xDD, 0xEE, 0xFF] =
      "33221100-5544-7766-8899-AABBCCDDEEFF".toList := by decide

/-- Sixteen bytes are known by the identifier they are written as. -/
theorem layout_injective {bytes others : List UInt8} (h : bytes.length = 16)
    (h' : others.length = 16) (heq : layout bytes = layout others) : bytes = others := by
  have hbytes := bytes_of_layout h
  rw [heq, bytes_of_layout h'] at hbytes
  exact (Option.some.inj hbytes).symm

/-! ### The identifier of a name -/

/-- The digest of a name in UTF-8. -/
def digestOf (name : String) : List UInt8 := Md5.digest name.toByteArray.data.toList

/-- The characters of an identifier are the layout of the digest of the name.
-/
theorem toList_ofName (name : String) : (ofName name).toList = layout (digestOf name) := by
  have hencode : Text.Utf8.encode name = name.toByteArray.data.toList := by
    rw [← Text.Utf8.toByteArray_encode, List.toList_data_toByteArray]
  rw [ofName, String.toList_ofList, hencode, digestOf]

/-- Two names have one identifier exactly if they have one digest, for the
layout of sixteen bytes can be taken apart again. -/
theorem ofName_eq_iff (name other : String) :
    ofName name = ofName other ↔ digestOf name = digestOf other := by
  rw [← String.toList_inj, toList_ofName, toList_ofName]
  constructor
  · exact layout_injective (Md5.length_digest _) (Md5.length_digest _)
  · intro h
    rw [h]

/-- The braces add nothing that could differ. -/
theorem braced_eq_iff (name other : String) :
    braced name = braced other ↔ ofName name = ofName other := by
  rw [braced, braced, String.append_left_inj, String.append_right_inj]

/-- An identifier is written in groups of 8, 4, 4, 4 and 12 capital digits, and
the bytes of its fields are the sixteen bytes of the digest of the name in
UTF-8. So two names have one identifier, with braces or without, exactly if
they have one digest. -/
theorem ofName_keepsDigest (name : String) :
    IsIdentifier (ofName name).toList ∧ (ofName name).length = 36 ∧
    (Fields.ofText? (ofName name).toList).map Fields.bytes = some (digestOf name) ∧
    (digestOf name).length = 16 ∧
    ∀ other : String,
      (ofName name = ofName other ↔ digestOf name = digestOf other) ∧
      (braced name = braced other ↔ digestOf name = digestOf other) := by
  have hlength : (digestOf name).length = 16 := Md5.length_digest _
  have hform : IsIdentifier (ofName name).toList := by
    rw [toList_ofName]
    exact isIdentifier_layout hlength
  refine ⟨hform, ?_, ?_, hlength, fun other => ⟨ofName_eq_iff name other, ?_⟩⟩
  · rw [← String.length_toList]
    exact hform.length_eq
  · rw [toList_ofName]
    exact bytes_of_layout hlength
  · rw [braced_eq_iff]
    exact ofName_eq_iff name other

example : ofName "abc" = "98500190-D23C-B04F-D696-3F7D28E17F72" := by decide +kernel

end Guid

end IdeProjects
