import IdeProjects.Json.Basic
import IdeProjects.Number.Notation

/-!
# `IdeProjects.Json.Literal`: a value as a message shows it

Messages about a document show the offending value on one line: texts
as quoted literals, lists and objects in brackets with their parts in
the order of the document. There is no bound on a whole number here: the
reader has refused those with more than `maxDigits` digits (`hasLong`).
-/

set_option autoImplicit false

namespace IdeProjects

namespace Json

/-- The numbers that are not finite, in messages. -/
def literalSpecials : Binary64.Specials := ⟨"nan", "inf"⟩

section

variable {τ : Type} [DocumentText τ]

mutual

/-- The literal of a value. -/
def literal : Json τ → String
  | .null => "None"
  | .bool true => "True"
  | .bool false => "False"
  | .integer n => toString n
  | .real x => x.text literalSpecials
  | .text s => DocumentText.quoted s
  | .array items => "[" ++ ", ".intercalate (literalItems items) ++ "]"
  | .object fields =>
    "\x7b" ++ ", ".intercalate (literalFields fields) ++ "\x7d"

/-- The literals of the items of a list. -/
def literalItems : List (Json τ) → List String
  | [] => []
  | item :: rest => item.literal :: literalItems rest

/-- The literals of the fields of an object. -/
def literalFields : List (τ × Json τ) → List String
  | [] => []
  | (name, value) :: rest =>
    (DocumentText.quoted name ++ ": " ++ value.literal) :: literalFields rest

end

end

end Json

end IdeProjects
