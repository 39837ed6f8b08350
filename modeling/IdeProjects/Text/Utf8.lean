import IdeProjects.Text.Hex

/-!
# `IdeProjects.Text.Utf8`: characters as bytes

Files hold bytes and the program works on characters. `encode` writes
UTF-8; `pieces` reads any bytes as a row of characters and malformed
parts, one byte at a time. A malformed part is as long as it can be:
it ends before the first byte that rules the sequence out. From the
pieces follow the two readings in use: `decode`, which refuses the
first malformed part, and `decodeLossy`, which puts `U+FFFD` in the
place of each.

Halves of surrogate pairs stand outside of this: no bytes are theirs, so
a text that holds one cannot be written, which is the one thing that can
be wrong with a text (`Reason.halves`).
-/

set_option autoImplicit false

namespace IdeProjects.Text.Utf8

/-- The bytes of a text. -/
def encode (s : String) : List UInt8 :=
  s.toList.flatMap String.utf8EncodeChar

/-- Why bytes and characters do not go together: what stands among the
bytes where a character should, or the halves of surrogate pairs, by
their distances from the first, that stand in a text to be written. -/
inductive Reason where
  | invalidStart
  | invalidContinuation
  | endOfData
  | halves (offsets : List (Fin 0x800))
  deriving DecidableEq, Repr

def Reason.message : Reason → String
  | .invalidStart => "invalid start byte"
  | .invalidContinuation => "invalid continuation byte"
  | .endOfData => "unexpected end of data"
  | .halves _ => "surrogates not allowed"

/-- What a stretch of bytes stands for. -/
inductive Piece where
  | char (c : Char)
  | malformed (bytes : List UInt8) (reason : Reason)
  deriving DecidableEq

/-- Where the reader stands between two bytes: between characters, or
inside one with `owed` bytes to come, the next of them from `low` to
`high`. `seen` holds the bytes of that character, last first, and
`value` the bits they carry. -/
inductive State where
  | start
  | inside (seen : List UInt8) (value owed : Nat) (low high : UInt8)

/-- Reads a byte between characters. The ranges of the second byte shut
out overlong forms, surrogates and values past the last code point. -/
def begin (b : UInt8) : List Piece × State :=
  if b < 0x80 then ([.char (Char.ofNat b.toNat)], .start)
  else if b < 0xC2 then ([.malformed [b] .invalidStart], .start)
  else if b < 0xE0 then ([], .inside [b] (b.toNat - 0xC0) 1 0x80 0xBF)
  else if b = 0xE0 then ([], .inside [b] 0 2 0xA0 0xBF)
  else if b = 0xED then ([], .inside [b] 0xD 2 0x80 0x9F)
  else if b < 0xF0 then ([], .inside [b] (b.toNat - 0xE0) 2 0x80 0xBF)
  else if b = 0xF0 then ([], .inside [b] 0 3 0x90 0xBF)
  else if b < 0xF4 then ([], .inside [b] (b.toNat - 0xF0) 3 0x80 0xBF)
  else if b = 0xF4 then ([], .inside [b] 4 3 0x80 0x8F)
  else ([.malformed [b] .invalidStart], .start)

/-- Reads one byte. A byte that cannot continue a character ends the
malformed part before it and is read again between characters. -/
def State.next : State → UInt8 → List Piece × State
  | .start, b => begin b
  | .inside seen value owed low high, b =>
    if low ≤ b && b ≤ high then
      let value := value * 64 + (b.toNat - 0x80)
      if owed = 1 then ([.char (Char.ofNat value)], .start)
      else ([], .inside (b :: seen) value (owed - 1) 0x80 0xBF)
    else
      let (more, state) := begin b
      (.malformed seen.reverse .invalidContinuation :: more, state)

/-- The pieces of the bytes read from a state on. -/
def piecesFrom : State → List UInt8 → List Piece
  | .start, [] => []
  | .inside seen _ _ _ _, [] => [.malformed seen.reverse .endOfData]
  | state, b :: rest =>
    let (here, state) := state.next b
    here ++ piecesFrom state rest

/-- Any bytes as characters and malformed parts. -/
def pieces (bytes : List UInt8) : List Piece := piecesFrom .start bytes

/-- The first malformed part of some bytes, or of a text to be written:
its place, its bytes (of a text there are none) and what is wrong with
it. -/
structure Malformed where
  position : Nat
  bytes : List UInt8
  reason : Reason
  deriving DecidableEq

/-- The place of a malformed part. A part of one unit shows it as
`shown`, of a longer one its first and last place are given. -/
def Malformed.subject (m : Malformed) (unit shown : String) (length : Nat) : String :=
  if length = 1 then unit ++ " " ++ shown ++ " in position " ++ toString m.position
  else unit ++ "s in position " ++ toString m.position ++ "-" ++
    toString (m.position + length - 1)

def Malformed.message (m : Malformed) : String :=
  let hex (width n : Nat) := String.ofList (Hex.digits Hex.smallDigits width n)
  let problem := match m.reason with
    | .halves offsets =>
      let first := (offsets.head?.map Fin.val).getD 0
      "encode " ++ m.subject "character" ("'\\u" ++ hex 4 (0xD800 + first) ++ "'") offsets.length
    | _ =>
      let first := (m.bytes.head?.map UInt8.toNat).getD 0
      "decode " ++ m.subject "byte" ("0x" ++ hex 2 first) m.bytes.length
  "'utf-8' codec can't " ++ problem ++ ": " ++ m.reason.message

/-- The characters of pieces that hold no malformed part; `position` is
the place of the first of them. -/
def charsFrom (position : Nat) : List Piece → Except Malformed (List Char)
  | [] => .ok []
  | .char c :: rest => do
    let cs ← charsFrom (position + c.utf8Size) rest
    return c :: cs
  | .malformed bytes reason :: _ => .error ⟨position, bytes, reason⟩

/-- The characters of well-formed bytes. -/
def decode (bytes : List UInt8) : Except Malformed (List Char) :=
  charsFrom 0 (pieces bytes)

/-- The characters of any bytes, with a replacement character for each
malformed part. -/
def decodeLossy (bytes : List UInt8) : List Char :=
  (pieces bytes).map fun
    | .char c => c
    | .malformed _ _ => '\uFFFD'

end IdeProjects.Text.Utf8
