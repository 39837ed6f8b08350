/-!
# `IdeProjects.Digest.Md5`: the MD5 digest

The digest of a row of bytes is sixteen bytes. The message is padded to
whole blocks of 64 bytes, each block is read as sixteen words with the
least byte first, and sixty-four rounds fold it into a state of four
words. A round is named by its number alone: the first sixteen, the
next sixteen and so on mix the words in four ways and take the words of
the block in four orders.
-/

set_option autoImplicit false

namespace IdeProjects.Md5

/-- The constant and the rotation of each round. -/
def rounds : List (UInt32 × UInt32) := [
  (0xD76AA478, 7), (0xE8C7B756, 12), (0x242070DB, 17), (0xC1BDCEEE, 22),
  (0xF57C0FAF, 7), (0x4787C62A, 12), (0xA8304613, 17), (0xFD469501, 22),
  (0x698098D8, 7), (0x8B44F7AF, 12), (0xFFFF5BB1, 17), (0x895CD7BE, 22),
  (0x6B901122, 7), (0xFD987193, 12), (0xA679438E, 17), (0x49B40821, 22),
  (0xF61E2562, 5), (0xC040B340, 9), (0x265E5A51, 14), (0xE9B6C7AA, 20),
  (0xD62F105D, 5), (0x02441453, 9), (0xD8A1E681, 14), (0xE7D3FBC8, 20),
  (0x21E1CDE6, 5), (0xC33707D6, 9), (0xF4D50D87, 14), (0x455A14ED, 20),
  (0xA9E3E905, 5), (0xFCEFA3F8, 9), (0x676F02D9, 14), (0x8D2A4C8A, 20),
  (0xFFFA3942, 4), (0x8771F681, 11), (0x6D9D6122, 16), (0xFDE5380C, 23),
  (0xA4BEEA44, 4), (0x4BDECFA9, 11), (0xF6BB4B60, 16), (0xBEBFBC70, 23),
  (0x289B7EC6, 4), (0xEAA127FA, 11), (0xD4EF3085, 16), (0x04881D05, 23),
  (0xD9D4D039, 4), (0xE6DB99E5, 11), (0x1FA27CF8, 16), (0xC4AC5665, 23),
  (0xF4292244, 6), (0x432AFF97, 10), (0xAB9423A7, 15), (0xFC93A039, 21),
  (0x655B59C3, 6), (0x8F0CCC92, 10), (0xFFEFF47D, 15), (0x85845DD1, 21),
  (0x6FA87E4F, 6), (0xFE2CE6E0, 10), (0xA3014314, 15), (0x4E0811A1, 21),
  (0xF7537E82, 6), (0xBD3AF235, 10), (0x2AD7D2BB, 15), (0xEB86D391, 21)]

/-- The four words that a block changes. -/
structure State where
  a : UInt32
  b : UInt32
  c : UInt32
  d : UInt32
  deriving DecidableEq, Repr

/-- The state before the first block. -/
def start : State := ⟨0x67452301, 0xEFCDAB89, 0x98BADCFE, 0x10325476⟩

/-- Rotation to the left. -/
def rotate (word count : UInt32) : UInt32 :=
  (word <<< count) ||| (word >>> (32 - count))

/-- How a round mixes three words. -/
def mix (round : Nat) (b c d : UInt32) : UInt32 :=
  if round < 16 then (b &&& c) ||| (~~~b &&& d)
  else if round < 32 then (d &&& b) ||| (~~~d &&& c)
  else if round < 48 then b ^^^ c ^^^ d
  else c ^^^ (b ||| ~~~d)

/-- The word of the block that a round takes. -/
def wordIndex (round : Nat) : Nat :=
  if round < 16 then round
  else if round < 32 then (5 * round + 1) % 16
  else if round < 48 then (3 * round + 5) % 16
  else 7 * round % 16

/-- One round. -/
def roundStep (block : List UInt32) (s : State)
    (entry : (UInt32 × UInt32) × Nat) : State :=
  let ((constant, count), round) := entry
  let sum := s.a + mix round s.b s.c s.d + constant +
    block.getD (wordIndex round) 0
  ⟨s.d, s.b + rotate sum count, s.b, s.c⟩

/-- Folds one block into the state. -/
def absorb (s : State) (block : List UInt32) : State :=
  let t := rounds.zipIdx.foldl (roundStep block) s
  ⟨s.a + t.a, s.b + t.b, s.c + t.c, s.d + t.d⟩

/-- The `count` low bytes of a number, least first. -/
def lowBytes : (count n : Nat) → List UInt8
  | 0, _ => []
  | count + 1, n => UInt8.ofNat (n % 256) :: lowBytes count (n / 256)

/-- The padded message: a one bit, zeros up to eight bytes short of a
block, and the length in bits. -/
def pad (message : List UInt8) : List UInt8 :=
  let zeros := (119 - message.length % 64) % 64
  message ++ 0x80 :: List.replicate zeros 0 ++ lowBytes 8 (8 * message.length)

/-- Words of four bytes, least byte first. -/
def words : List UInt8 → List UInt32
  | a :: b :: c :: d :: rest =>
    (a.toUInt32 ||| (b.toUInt32 <<< 8) ||| (c.toUInt32 <<< 16) |||
      (d.toUInt32 <<< 24)) :: words rest
  | _ => []

/-- Folds `count` blocks of sixteen words into the state. -/
def absorbAll : (count : Nat) → State → List UInt32 → State
  | 0, s, _ => s
  | count + 1, s, message =>
    absorbAll count (absorb s (message.take 16)) (message.drop 16)

/-- The bytes of the state. -/
def State.bytes (s : State) : List UInt8 :=
  lowBytes 4 s.a.toNat ++ lowBytes 4 s.b.toNat ++
    lowBytes 4 s.c.toNat ++ lowBytes 4 s.d.toNat

/-- The digest of a message. -/
def digest (message : List UInt8) : List UInt8 :=
  let padded := words (pad message)
  (absorbAll (padded.length / 16) start padded).bytes

/-- As many bytes are taken as are asked for. -/
theorem length_lowBytes (count n : Nat) : (lowBytes count n).length = count := by
  induction count generalizing n with
  | zero => rfl
  | succ count ih => simp [lowBytes, ih]

/-- A digest has sixteen bytes. -/
theorem length_digest (message : List UInt8) : (digest message).length = 16 := by
  simp [digest, State.bytes, length_lowBytes]

/-- The ten decimal digits eight times over, which with the padding fill two
blocks. -/
example : digest
    (List.replicate 8 [0x31, 0x32, 0x33, 0x34, 0x35, 0x36, 0x37, 0x38, 0x39, 0x30]).flatten =
      [0x57, 0xED, 0xF4, 0xA2, 0x2B, 0xE3, 0xC9, 0x55,
        0xAC, 0x49, 0xDA, 0x2E, 0x21, 0x07, 0xB6, 0x7A] := by decide +kernel

end IdeProjects.Md5
