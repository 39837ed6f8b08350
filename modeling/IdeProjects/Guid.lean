import IdeProjects.Digest.Md5
import IdeProjects.Text.Hex
import IdeProjects.Text.Utf8

/-!
# `IdeProjects.Guid`: identifiers of projects

A project is identified by a GUID that follows from the name of its
unit: the sixteen bytes of the digest of the name, read in the layout of
a GUID. That layout is mixed: the first group is a number of four bytes
with the least byte first, the next two groups are numbers of two bytes
in the same order, and the last eight bytes stand one by one. The text
has capital digits in groups of 8, 4, 4, 4 and 12.
-/

set_option autoImplicit false

namespace IdeProjects

namespace Guid

/-- The two digits of a byte. -/
def byteDigits (b : UInt8) : List Char :=
  Text.Hex.digits Text.Hex.capitalDigits 2 b.toNat

/-- The digits of a group of bytes, in the order given. -/
def group (bytes : List UInt8) : List Char := bytes.flatMap byteDigits

/-- The groups of sixteen bytes; the numbers at the front show their
greatest byte first. -/
def groups (bytes : List UInt8) : List (List Char) := [
  group (bytes.take 4).reverse,
  group ((bytes.drop 4).take 2).reverse,
  group ((bytes.drop 6).take 2).reverse,
  group ((bytes.drop 8).take 2),
  group (bytes.drop 10)]

/-- The text of sixteen bytes. -/
def layout (bytes : List UInt8) : List Char :=
  ['-'].intercalate (groups bytes)

/-- The identifier of a unit name. -/
def ofName (name : String) : String :=
  String.ofList (layout (Md5.digest (Text.Utf8.encode name)))

/-- The identifier between braces. -/
def braced (name : String) : String := "\x7b" ++ ofName name ++ "\x7d"

end Guid

end IdeProjects
