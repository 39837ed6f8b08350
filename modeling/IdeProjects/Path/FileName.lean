/-!
# `IdeProjects.Path.FileName`: the file name in a reference

A reference to a library may be written for either family of systems,
so both slashes end a directory, and a drive or a share before the
directories is no part of the name: a letter and a colon, or two
slashes with the names of a server and a share. `lastPart` cuts all of
that off; `stem` cuts the extension, where dots at the start of a name
open no extension.
-/

set_option autoImplicit false

namespace IdeProjects

namespace FileName

/-- Either slash. -/
def isSlash (c : Char) : Bool := c == '/' || c == '\\'

/-- What stands before the names of server and share in the long form of
a share: `\\?\UNC\`, in either case and with either slash. -/
def startsLongShare (cs : List Char) : Bool :=
  (cs.take 8).map (fun c => if isSlash c then '\\' else c.toUpper) ==
    "\\\\?\\UNC\\".toList

/-- A text after its drive or share. A share without a directory after
it is all there is. -/
def afterDrive (cs : List Char) : List Char :=
  match cs with
  | a :: b :: rest =>
    if isSlash a && isSlash b then
      let names := if startsLongShare cs then cs.drop 8 else rest
      match names.dropWhile (!isSlash ·) with
      | [] => []
      | _ :: share => share.dropWhile (!isSlash ·)
    else if b = ':' then rest
    else cs
  | _ => cs

/-- The characters after the last slash. -/
def lastPart (cs : List Char) : List Char :=
  ((afterDrive cs).reverse.takeWhile (!isSlash ·)).reverse

/-- A name up to its last dot, if something other than dots stands
before that dot; else the whole name. -/
def stem (cs : List Char) : List Char :=
  match cs.reverse.dropWhile (· != '.') with
  | [] => cs
  | _ :: before => if before.all (· == '.') then cs else before.reverse

end FileName

end IdeProjects
