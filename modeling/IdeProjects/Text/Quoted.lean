import IdeProjects.Text.Hex
import IdeProjects.Text.Printable

/-!
# `IdeProjects.Text.Quoted`: a text as a literal in a message

Messages show a text between quotes, so that its ends and its invisible
characters can be seen. The quote is `'`, or `"` for a text that holds
`'` and no `"`. A backslash and the quote are escaped by a backslash,
the three common controls by a letter, and every other character that
is not printable by its number.
-/

set_option autoImplicit false

namespace IdeProjects.Text

/-- The quote a text is shown between. -/
def quoteOf (cs : List Char) : Char :=
  if cs.contains '\'' && !cs.contains '"' then '"' else '\''

/-- A character by its number, in the shortest of the three widths that
holds it. -/
def numericEscape (c : Char) : List Char :=
  if c.toNat < 0x100 then '\\' :: 'x' :: Hex.digits Hex.smallDigits 2 c.toNat
  else if c.toNat < 0x10000 then
    '\\' :: 'u' :: Hex.digits Hex.smallDigits 4 c.toNat
  else '\\' :: 'U' :: Hex.digits Hex.smallDigits 8 c.toNat

/-- One character inside a literal with the given quote. -/
def quotedChar (quote c : Char) : List Char :=
  if c = quote || c = '\\' then ['\\', c]
  else if c = '\n' then ['\\', 'n']
  else if c = '\r' then ['\\', 'r']
  else if c = '\t' then ['\\', 't']
  else if isPrintable c then [c]
  else numericEscape c

/-- The literal of a text given by its characters. -/
def quotedChars (cs : List Char) : List Char :=
  let quote := quoteOf cs
  quote :: cs.flatMap (quotedChar quote) ++ [quote]

/-- The literal of a text. -/
def quoted (s : String) : String := String.ofList (quotedChars s.toList)

end IdeProjects.Text
