import IdeProjects.Text.Code

/-!
# `IdeProjects.Path.Basic`: paths and places

A `Location` is a place in a file tree: the names on the way from the
root. A `Path` is what a user writes: relative or from the root, with
`..` still in it. Writing a path drops what carries no meaning (empty
and `.` parts) and keeps `..`, because only the tree can tell where it
leads; `Path.locate` is the other reading, by the text alone, which
takes a name back for every `..`.

A path from the root may start with two slashes. That spelling is kept
in the text and means the same root.

The names of places and the parts of paths are `String`s but for paths
that documents name, whose parts can be any texts of a document.
-/

set_option autoImplicit false

namespace IdeProjects

/-- A place in a file tree: the names from the root down. -/
abbrev Location (τ : Type := String) := List τ

/-- Where a path starts: at the working directory, or at the root under
one of its two spellings. -/
inductive Root where
  | relative
  | slash
  | doubleSlash
  deriving DecidableEq, Repr

namespace Root

/-- What a path writes before its first part. -/
def text : Root → String
  | .relative => ""
  | .slash => "/"
  | .doubleSlash => "//"

/-- The root that a text starts with; three slashes and more are one. -/
def ofChars : List Char → Root
  | '/' :: '/' :: '/' :: _ => .slash
  | '/' :: '/' :: _ => .doubleSlash
  | '/' :: _ => .slash
  | _ => .relative

end Root

/-- A path as its root and its parts. -/
structure Path (τ : Type := String) where
  root : Root
  parts : List τ
  deriving DecidableEq, Repr

namespace Path

/-- The stretches of a text between slashes. -/
def splitSlashes : List Char → List (List Char)
  | [] => [[]]
  | c :: rest =>
    if c = '/' then [] :: splitSlashes rest
    else match splitSlashes rest with
      | [] => [[c]]
      | first :: more => (c :: first) :: more

/-- Whether a stretch between slashes carries a meaning. -/
def isPart (part : List Char) : Bool := part != [] && part != ['.']

/-- The parts of a text. -/
def partsOf (cs : List Char) : List String :=
  ((splitSlashes cs).filter isPart).map String.ofList

/-- The path a text writes. -/
def ofText (s : String) : Path := ⟨Root.ofChars s.toList, partsOf s.toList⟩

/-- The text of a path; a path without root and parts is the working
directory itself. -/
def text (p : Path) : String :=
  if p.root = .relative && p.parts.isEmpty then "."
  else p.root.text ++ "/".intercalate p.parts

section

variable {τ : Type}

def isAbsolute (p : Path τ) : Bool := p.root != .relative

/-- The path `other`, read from the directory `p`. -/
def join (p other : Path τ) : Path τ :=
  if other.isAbsolute then other else ⟨p.root, p.parts ++ other.parts⟩

variable [DecidableEq τ] [DocumentText τ]

/-- One part read by its text: `..` takes the last name back, and stays
at the root. -/
def step (place : Location τ) (part : τ) : Location τ :=
  if part = DocumentText.ofString ".." then place.dropLast
  else if part = DocumentText.ofString "" || part = DocumentText.ofString "." then place
  else place ++ [part]

/-- The place that parts lead to, read by their text. -/
def walk (start : Location τ) (parts : List τ) : Location τ :=
  parts.foldl step start

/-- The place a path names, read by its text from a working directory. -/
def locate (base : Location τ) (p : Path τ) : Location τ :=
  walk (if p.isAbsolute then [] else base) p.parts

end

/-- A step by a part of characters. -/
theorem step_string (place : Location) (part : String) :
    step place part = if part = ".." then place.dropLast
      else if part = "" || part = "." then place
      else place ++ [part] := rfl

/-- The entry `name` of the directory `p`. -/
def child (p : Path) (name : String) : Path := ⟨p.root, p.parts ++ [name]⟩

/-- The path without its last part. -/
def parent (p : Path) : Path := ⟨p.root, p.parts.dropLast⟩

/-- The last part. -/
def name (p : Path) : String := p.parts.getLast?.getD ""

/-- The path of a place. -/
def ofLocation (place : Location) : Path := ⟨.slash, place⟩

/-- Whether a part holds the character no file name can hold. -/
def hasNull (p : Path) : Bool := p.parts.any fun part => part.toList.contains '\x00'

end Path

end IdeProjects
