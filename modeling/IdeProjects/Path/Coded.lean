import IdeProjects.Fault
import IdeProjects.Path.Basic

/-!
# `IdeProjects.Path.Coded`: paths that documents name

The parts of a path that a document names are texts of any codes. To find
the place of such a path the host is asked about one part after the
other, each with all that stands before it, and it turns a part down that
it cannot pass on as a name: one with a half of a surrogate pair, which
has no bytes, or with a null character. Of the halves it lets 128 pass,
which stand for the bytes of names that are no UTF-8.

A `..` takes back the name before it, and the host is not asked about it;
but it has been asked about that name.
-/

set_option autoImplicit false

namespace IdeProjects

/-! ### Halves without bytes -/

namespace Code

/-- Whether a half stands for a byte of a name that is no UTF-8. -/
def standsForByte (offset : Fin 0x800) : Bool :=
  0x480 ≤ offset.val && offset.val < 0x500

/-- The halves at the start of a text. -/
def leadingHalves : List Code → List (Fin 0x800)
  | .half offset :: rest => offset :: leadingHalves rest
  | _ => []

/-- The place of the first half that has no bytes, and all halves in a row
from there on. -/
def firstHalves? : List Code → Option (Nat × List (Fin 0x800))
  | [] => none
  | .half offset :: rest =>
    if standsForByte offset then (firstHalves? rest).map fun (i, halves) => (i + 1, halves)
    else some (0, offset :: leadingHalves rest)
  | .char _ :: rest => (firstHalves? rest).map fun (i, halves) => (i + 1, halves)

end Code

namespace Path

/-! ### Paths from texts -/

/-- The path a text of codes writes. -/
def ofCodes (t : CodeText) : Path CodeText where
  root := Root.ofChars t.repaired.toList
  parts := ((t.codes.splitOn (.char '/')).filter fun part =>
    part != [] && part != [.char '.']).map CodeText.mk

/-- A path with its parts as rows of codes. -/
def coded (p : Path) : Path CodeText := ⟨p.root, p.parts.map .ofString⟩

/-! ### Questions to the host -/

/-- The part that goes back. -/
def up : CodeText := .ofString ".."

/-- What a `..` leaves of the parts before it. In a path that is not from
the root there may be nothing to take back, and the `..` stays. -/
def backFrom (absolute : Bool) (before : List CodeText) : List CodeText :=
  if absolute then before.dropLast
  else match before.getLast? with
    | none => [up]
    | some last => if last = up then before ++ [up] else before.dropLast

/-- How many codes stand before the next part. -/
def lengthBefore (absolute : Bool) (before : List CodeText) : Nat :=
  before.foldl (fun n part => n + part.codes.length + 1) (if absolute then 1 else 0)

/-- Why the host turns down a part with others before it. -/
def partFault? (absolute : Bool) (before : List CodeText) (part : CodeText) : Option Fault :=
  match Code.firstHalves? part.codes with
  | some (i, halves) =>
    some (.encoding ⟨lengthBefore absolute before + i, [], .halves halves⟩)
  | none => if part.codes.contains (.char '\x00') then some .nullCharacter else none

/-- Why the host turns down one of the parts with others before them. -/
def faultAfter? (absolute : Bool) (before : List CodeText) : List CodeText → Option Fault
  | [] => none
  | part :: rest =>
    if part = up then faultAfter? absolute (backFrom absolute before) rest
    else match partFault? absolute before part with
      | some fault => some fault
      | none => faultAfter? absolute (before ++ [part]) rest

/-- The place of a path, read by its text, unless the host turns it down. -/
def resolveCoded (base : Location) (p : Path CodeText) : Except Fault (Location CodeText) :=
  match faultAfter? p.isAbsolute [] p.parts with
  | some fault => .error fault
  | none => .ok (p.locate (base.map .ofString))

end Path

end IdeProjects
