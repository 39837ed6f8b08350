import IdeProjects.Json.Basic
import IdeProjects.Number.Notation
import IdeProjects.Text.Hex

/-!
# `IdeProjects.Json.Writer`: writing a JSON document

A document is written in ASCII: every other character of a text is an
escape by number, a character outside the basic plane a pair of them.
`document` is the form of report files, indented by two blanks a level
and with the fields of every object in the order of their names;
`oneLine` is the same value without line breaks and in its own order.

A value with a whole number of more than `maxDigits` digits has no
document (`hasLong`), as no document with such a number can be read.
-/

set_option autoImplicit false

namespace IdeProjects

namespace Json

/-- The numbers that are not finite, in documents. -/
def documentSpecials : Binary64.Specials := ⟨"NaN", "Infinity"⟩

/-- An escape by number. -/
def codeEscape (code : Nat) : List Char :=
  '\\' :: 'u' :: Text.Hex.digits Text.Hex.smallDigits 4 code

/-- One character inside a text. -/
def writeChar (c : Char) : List Char :=
  if c = '"' then ['\\', '"']
  else if c = '\\' then ['\\', '\\']
  else if c = '\n' then ['\\', 'n']
  else if c = '\r' then ['\\', 'r']
  else if c = '\t' then ['\\', 't']
  else if c = '\x08' then ['\\', 'b']
  else if c = '\x0c' then ['\\', 'f']
  else if 0x20 ≤ c.toNat && c.toNat < 0x7F then [c]
  else if c.toNat < 0x10000 then codeEscape c.toNat
  else
    codeEscape (0xD800 + (c.toNat - 0x10000) / 0x400) ++
      codeEscape (0xDC00 + (c.toNat - 0x10000) % 0x400)

/-- A text between quotes. -/
def writeText (s : String) : List Char :=
  '"' :: s.toList.flatMap writeChar ++ ['"']

/-- The text of a value without parts. -/
def writeScalar : Json → List Char
  | .null => "null".toList
  | .bool true => "true".toList
  | .bool false => "false".toList
  | .integer n => (toString n).toList
  | .real x => (x.text documentSpecials).toList
  | .text s => writeText s
  | .array _ => "[]".toList
  | .object _ => "\x7b\x7d".toList

/-! ### The order of names -/

mutual

/-- A value with the fields of every object in the order of their
names. -/
def sorted : Json → Json
  | .array items => .array (sortedItems items)
  | .object fields =>
    .object ((sortedFields fields).mergeSort fun a b => a.1 ≤ b.1)
  | value => value

def sortedItems : List Json → List Json
  | [] => []
  | item :: rest => item.sorted :: sortedItems rest

def sortedFields : List (String × Json) → List (String × Json)
  | [] => []
  | (name, value) :: rest => (name, value.sorted) :: sortedFields rest

end

/-! ### Layout -/

/-- A line break and the blanks of a level. -/
def newLine (level : Nat) : List Char :=
  '\n' :: List.replicate (2 * level) ' '

mutual

/-- A value on several lines, starting at a level. -/
def writeIndented (level : Nat) : Json → List Char
  | .array (item :: rest) =>
    '[' :: newLine (level + 1) ++ writeIndented (level + 1) item ++
      moreItems (level + 1) rest ++ newLine level ++ [']']
  | .object ((name, value) :: rest) =>
    '\x7b' :: newLine (level + 1) ++ writeText name ++ ':' :: ' ' ::
      writeIndented (level + 1) value ++
      moreFields (level + 1) rest ++ newLine level ++ ['\x7d']
  | value => writeScalar value

/-- The items of a list after its first. -/
def moreItems (level : Nat) : List Json → List Char
  | [] => []
  | item :: rest =>
    ',' :: newLine level ++ writeIndented level item ++ moreItems level rest

/-- The fields of an object after its first. -/
def moreFields (level : Nat) : List (String × Json) → List Char
  | [] => []
  | (name, value) :: rest =>
    ',' :: newLine level ++ writeText name ++ ':' :: ' ' ::
      writeIndented level value ++ moreFields level rest

end

/-- Whether a whole number has more digits than are written. -/
def isLong (n : Int) : Bool := (Nat.toDigits 10 n.natAbs).length > maxDigits

section

variable {τ : Type}

mutual

/-- Whether a whole number in a value is too long. -/
def hasLong : Json τ → Bool
  | .integer n => isLong n
  | .array items => itemsHaveLong items
  | .object fields => fieldsHaveLong fields
  | _ => false

def itemsHaveLong : List (Json τ) → Bool
  | [] => false
  | item :: rest => item.hasLong || itemsHaveLong rest

def fieldsHaveLong : List (τ × Json τ) → Bool
  | [] => false
  | (_, value) :: rest => value.hasLong || fieldsHaveLong rest

end

end

/-- The document of a value: names in order, two blanks a level and a
line feed at the end. -/
def document (value : Json) : String :=
  String.ofList (writeIndented 0 value.sorted ++ ['\n'])

mutual

/-- A value on one line. -/
def writeFlat : Json → List Char
  | .array (item :: rest) => '[' :: writeFlat item ++ moreFlatItems rest ++ [']']
  | .object ((name, value) :: rest) =>
    '\x7b' :: writeText name ++ ':' :: writeFlat value ++
      moreFlatFields rest ++ ['\x7d']
  | value => writeScalar value

def moreFlatItems : List Json → List Char
  | [] => []
  | item :: rest => ',' :: writeFlat item ++ moreFlatItems rest

def moreFlatFields : List (String × Json) → List Char
  | [] => []
  | (name, value) :: rest =>
    ',' :: writeText name ++ ':' :: writeFlat value ++ moreFlatFields rest

end

/-- A value on one line, its fields in their own order. -/
def oneLine (value : Json) : String := String.ofList (writeFlat value)

end Json

end IdeProjects
