import IdeProjects.Json.Basic
import IdeProjects.Text.Hex

/-!
# `IdeProjects.Json.Reader`: reading a JSON document

The reader works on the characters of a document and hands on what is
left of them. A document that is no JSON is refused with the issue and
the place where it was seen; the place is what was left of the text
then, and becomes a line, a column and an offset only at the end
(`Position.at`).

Three spellings beyond the standard are accepted: `NaN`, `Infinity` and
`-Infinity`. A whole number of more than `maxDigits` digits is refused
as such.

A text is read with all its codes, the halves of pairs among them that
an escape names without the other half (`readCoded`). `read` gives the
value with its texts repaired.

The recursion through lists and objects takes fuel. `read` gives two
units for every character of the text, which no document uses up: each
level and each further entry costs at least one character.
-/

set_option autoImplicit false

namespace IdeProjects

namespace Json

/-- What is wrong with the text of a document. -/
inductive Issue where
  | byteOrderMark
  | expectingValue
  | expectingName
  | expectingColon
  | expectingComma
  | extraData
  | unterminatedText
  | controlCharacter
  | unicodeEscape
  | escape
  deriving DecidableEq, Repr

def Issue.message : Issue → String
  | .byteOrderMark => "Unexpected UTF-8 BOM (decode using utf-8-sig)"
  | .expectingValue => "Expecting value"
  | .expectingName => "Expecting property name enclosed in double quotes"
  | .expectingColon => "Expecting ':' delimiter"
  | .expectingComma => "Expecting ',' delimiter"
  | .extraData => "Extra data"
  | .unterminatedText => "Unterminated string starting at"
  | .controlCharacter => "Invalid control character at"
  | .unicodeEscape => "Invalid \\uXXXX escape"
  | .escape => "Invalid \\escape"

/-- A failure while reading: an issue with what was left of the text, or
a whole number with too many digits. -/
inductive Failure where
  | issue (issue : Issue) (left : List Char)
  | tooManyDigits (count : Nat)
  deriving DecidableEq

/-- A step of the reader: a result and what is left of the text. -/
abbrev Step (α : Type) := Except Failure (α × List Char)

/-- White space between the parts of a document. -/
def isSpace (c : Char) : Bool :=
  c == ' ' || c == '\t' || c == '\n' || c == '\r'

def skipSpace (cs : List Char) : List Char := cs.dropWhile isSpace

/-! ### Texts -/

/-- The value of four hexadecimal digits. -/
def fourDigits? (a b c d : Char) : Option Nat := do
  let a ← Text.Hex.value? a
  let b ← Text.Hex.value? b
  let c ← Text.Hex.value? c
  let d ← Text.Hex.value? d
  return ((a * 16 + b) * 16 + c) * 16 + d

/-- The code of an escape of one letter. -/
def escapeCode? : Char → Option Nat
  | '"' => some 0x22
  | '\\' => some 0x5C
  | '/' => some 0x2F
  | 'b' => some 0x08
  | 'f' => some 0x0C
  | 'n' => some 0x0A
  | 'r' => some 0x0D
  | 't' => some 0x09
  | _ => none

/-- The codes of a text up to its closing quote. An escape by number
may be half of a surrogate pair, so halves are joined afterwards.
`opening` is the text from the opening quote on, where an unterminated
text is reported. An escape by number needs a character after its
digits, for the text still has to be closed. -/
def textCodes (opening : List Char) : List Char → Step (List Nat)
  | [] => .error (.issue .unterminatedText opening)
  | '"' :: rest => .ok ([], rest)
  | ['\\'] => .error (.issue .unterminatedText opening)
  | '\\' :: 'u' :: a :: b :: c :: d :: e :: rest =>
    match fourDigits? a b c d with
    | none =>
      .error (.issue .unicodeEscape ('u' :: a :: b :: c :: d :: e :: rest))
    | some code =>
      (textCodes opening (e :: rest)).map fun (codes, left) =>
        (code :: codes, left)
  | '\\' :: 'u' :: rest => .error (.issue .unicodeEscape ('u' :: rest))
  | '\\' :: c :: rest =>
    match escapeCode? c with
    | none => .error (.issue .escape ('\\' :: c :: rest))
    | some code =>
      (textCodes opening rest).map fun (codes, left) => (code :: codes, left)
  | c :: rest =>
    if c.toNat < 0x20 then .error (.issue .controlCharacter (c :: rest))
    else
      (textCodes opening rest).map fun (codes, left) =>
        (c.toNat :: codes, left)

def isHighSurrogate (code : Nat) : Bool := 0xD800 ≤ code && code < 0xDC00

def isLowSurrogate (code : Nat) : Bool := 0xDC00 ≤ code && code < 0xE000

/-- Joins the halves of pairs: a high surrogate and the low one after it
are one character, and any other code stays what it is. -/
def joinCodes : List Nat → List Code
  | [] => []
  | high :: low :: rest =>
    if isHighSurrogate high && isLowSurrogate low then
      .char (Char.ofNat (0x10000 + (high - 0xD800) * 0x400 + (low - 0xDC00))) ::
        joinCodes rest
    else .ofNat high :: joinCodes (low :: rest)
  | [code] => [.ofNat code]

/-- A text after its opening quote. -/
def readText (opening cs : List Char) : Step CodeText :=
  (textCodes opening cs).map fun (codes, left) => (⟨joinCodes codes⟩, left)

/-! ### Numbers -/

/-- The number that digits stand for. -/
def digitsValue (digits : List Char) : Nat :=
  digits.foldl (fun n c => n * 10 + (c.toNat - '0'.toNat)) 0

/-- The digits before the point: a zero alone, or digits that start
with none. -/
def wholeDigits? : List Char → Option (List Char × List Char)
  | [] => none
  | c :: rest =>
    if c = '0' then some (['0'], rest)
    else if c.isDigit then
      some (c :: rest.takeWhile Char.isDigit, rest.dropWhile Char.isDigit)
    else none

/-- The digits after a point; a point without digits is not part of the
number. -/
def fractionDigits : List Char → List Char × List Char
  | '.' :: rest =>
    match rest.takeWhile Char.isDigit with
    | [] => ([], '.' :: rest)
    | digits => (digits, rest.dropWhile Char.isDigit)
  | cs => ([], cs)

/-- The exponent; a mark without digits is not part of the number. -/
def exponentPart (cs : List Char) : Option Int × List Char :=
  match cs with
  | [] => (none, cs)
  | mark :: rest =>
    if mark = 'e' || mark = 'E' then
      let (negative, body) := match rest with
        | '-' :: body => (true, body)
        | '+' :: body => (false, body)
        | body => (false, body)
      match body.takeWhile Char.isDigit with
      | [] => (none, cs)
      | digits =>
        let size : Int := digitsValue digits
        (some (if negative then -size else size),
          body.dropWhile Char.isDigit)
    else (none, cs)

/-- A number after its sign. `start` is the text from the sign on. -/
def readMagnitude (start : List Char) (negative : Bool) (cs : List Char) :
    Step Coded :=
  match wholeDigits? cs with
  | none => .error (.issue .expectingValue start)
  | some (whole, rest) =>
    let (fraction, rest) := fractionDigits rest
    let (exponent?, rest) := exponentPart rest
    if fraction.isEmpty && exponent?.isNone then
      if whole.length > maxDigits then .error (.tooManyDigits whole.length)
      else
        let size : Int := digitsValue whole
        .ok (.integer (if negative then -size else size), rest)
    else
      let exponent := exponent?.getD 0 - fraction.length
      .ok (.real (.ofDecimal negative (digitsValue (whole ++ fraction)) exponent),
        rest)

/-- A number. -/
def readNumber : List Char → Step Coded
  | '-' :: rest => readMagnitude ('-' :: rest) true rest
  | cs => readMagnitude cs false cs

/-- The words that stand for a value. -/
def words : List (List Char × Coded) := [
  ("null".toList, .null),
  ("true".toList, .bool true),
  ("false".toList, .bool false),
  ("NaN".toList, .real .nan),
  ("Infinity".toList, .real (.infinite false)),
  ("-Infinity".toList, .real (.infinite true))]

/-- The word a text starts with. -/
def readWord? (cs : List Char) : Option (Coded × List Char) :=
  words.findSome? fun (word, value) =>
    if word.isPrefixOf cs then some (value, cs.drop word.length) else none

/-! ### Values -/

mutual

/-- A value at the start of a text. -/
def readValue : (fuel : Nat) → List Char → Step Coded
  | 0, cs => .error (.issue .expectingValue cs)
  | fuel + 1, cs =>
    match cs with
    | [] => .error (.issue .expectingValue [])
    | '"' :: rest =>
      (readText cs rest).map fun (s, left) => (.text s, left)
    | '[' :: rest =>
      match skipSpace rest with
      | ']' :: left => .ok (.array [], left)
      | body => (readItems fuel body).map fun (items, left) =>
        (.array items, left)
    | '\x7b' :: rest =>
      match skipSpace rest with
      | '\x7d' :: left => .ok (.object [], left)
      | body => (readFields fuel [] body).map fun (fields, left) =>
        (.object fields, left)
    | _ =>
      match readWord? cs with
      | some found => .ok found
      | none => readNumber cs

/-- The items of a list, from the first one on. -/
def readItems : (fuel : Nat) → List Char → Step (List Coded)
  | 0, cs => .error (.issue .expectingValue cs)
  | fuel + 1, cs =>
    match readValue fuel cs with
    | .error failure => .error failure
    | .ok (item, left) =>
      match skipSpace left with
      | ']' :: left => .ok ([item], left)
      | ',' :: left =>
        (readItems fuel (skipSpace left)).map fun (items, left) =>
          (item :: items, left)
      | left => .error (.issue .expectingComma left)

/-- The fields of an object, from the next one on; `fields` are those
read before. -/
def readFields : (fuel : Nat) → List (CodeText × Coded) → List Char →
    Step (List (CodeText × Coded))
  | 0, _, cs => .error (.issue .expectingValue cs)
  | fuel + 1, fields, cs =>
    match cs with
    | '"' :: rest =>
      match readText cs rest with
      | .error failure => .error failure
      | .ok (name, left) =>
        match skipSpace left with
        | ':' :: left =>
          match readValue fuel (skipSpace left) with
          | .error failure => .error failure
          | .ok (value, left) =>
            let fields := setField name value fields
            match skipSpace left with
            | '\x7d' :: left => .ok (fields, left)
            | ',' :: left => readFields fuel fields (skipSpace left)
            | left => .error (.issue .expectingComma left)
        | left => .error (.issue .expectingColon left)
    | _ => .error (.issue .expectingName cs)

end

/-- A whole document: one value with white space around it. -/
def readDocument (cs : List Char) : Except Failure Coded :=
  match cs with
  | '\uFEFF' :: _ => .error (.issue .byteOrderMark cs)
  | _ =>
    match readValue (2 * cs.length + 2) (skipSpace cs) with
    | .error failure => .error failure
    | .ok (value, left) =>
      match skipSpace left with
      | [] => .ok value
      | left => .error (.issue .extraData left)

/-! ### Places in a text -/

/-- A place in a text: lines and columns count from one, the offset from
zero. -/
structure Position where
  line : Nat
  column : Nat
  offset : Nat
  deriving DecidableEq, Repr

/-- The place after the first `offset` characters of a text. -/
def Position.at (cs : List Char) (offset : Nat) : Position :=
  let before := cs.take offset
  ⟨before.count '\n' + 1, (before.reverse.takeWhile (· != '\n')).length + 1,
    offset⟩

def Position.message (p : Position) : String :=
  "line " ++ toString p.line ++ " column " ++ toString p.column ++
    " (char " ++ toString p.offset ++ ")"

/-- Why a document is refused. -/
inductive ReadError where
  | malformed (issue : Issue) (position : Position)
  | tooManyDigits (count : Nat)
  deriving DecidableEq

def ReadError.message : ReadError → String
  | .malformed issue position => issue.message ++ ": " ++ position.message
  | .tooManyDigits count =>
    "Exceeds the limit (" ++ toString maxDigits ++
      " digits) for integer string conversion: value has " ++ toString count ++
      " digits; use sys.set_int_max_str_digits() to increase the limit"

/-- Reads a document with all codes of its texts. -/
def readCoded (cs : List Char) : Except ReadError Coded :=
  match readDocument cs with
  | .ok value => .ok value
  | .error (.tooManyDigits count) => .error (.tooManyDigits count)
  | .error (.issue issue left) =>
    .error (.malformed issue (.at cs (cs.length - left.length)))

/-- Reads a document and repairs its texts. -/
def read (cs : List Char) : Except ReadError Json := (readCoded cs).map repaired

end Json

end IdeProjects
