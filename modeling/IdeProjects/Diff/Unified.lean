import IdeProjects.Diff.Matching
import IdeProjects.Text.Lines

/-!
# `IdeProjects.Diff.Unified`: showing a change

A change between two texts is shown in the unified format: hunks of
removed, added and unchanged lines, with up to three unchanged lines
around each change. Two texts with the same lines have no hunks and the
diff is empty.
-/

set_option autoImplicit false

namespace IdeProjects

namespace Diff

/-- What becomes of a stretch of lines. -/
inductive Tag where
  | equal
  | replace
  | delete
  | insert
  deriving DecidableEq, Repr

/-- A stretch of both lists, by the positions where it starts and ends. -/
structure Edit where
  tag : Tag
  leftStart : Nat
  leftEnd : Nat
  rightStart : Nat
  rightEnd : Nat
  deriving DecidableEq, Repr

/-- The stretch between two blocks, if there is one. -/
def gap? (leftStart leftEnd rightStart rightEnd : Nat) : Option Edit :=
  if leftStart < leftEnd then
    if rightStart < rightEnd then
      some ⟨.replace, leftStart, leftEnd, rightStart, rightEnd⟩
    else some ⟨.delete, leftStart, leftEnd, rightStart, rightEnd⟩
  else if rightStart < rightEnd then
    some ⟨.insert, leftStart, leftEnd, rightStart, rightEnd⟩
  else none

/-- The edits of two lists, given their common blocks from positions
on. -/
def editsFrom (leftSize rightSize left right : Nat) : List Block → List Edit
  | [] => (gap? left leftSize right rightSize).toList
  | b :: rest =>
    (gap? left b.left right b.right).toList ++
      ⟨.equal, b.left, b.left + b.size, b.right, b.right + b.size⟩ ::
      editsFrom leftSize rightSize (b.left + b.size) (b.right + b.size) rest

/-- The edits that turn one list of lines into the other. -/
def edits (left right : List String) : List Edit :=
  editsFrom left.length right.length 0 0 (blocks left right)

/-! ### Hunks -/

/-- The unchanged lines shown around a change. -/
def context : Nat := 3

/-- The last lines of an unchanged stretch. -/
def Edit.lastLines (e : Edit) : Edit :=
  { e with
    leftStart := max e.leftStart (e.leftEnd - context)
    rightStart := max e.rightStart (e.rightEnd - context) }

/-- The first lines of an unchanged stretch. -/
def Edit.firstLines (e : Edit) : Edit :=
  { e with
    leftEnd := min e.leftEnd (e.leftStart + context)
    rightEnd := min e.rightEnd (e.rightStart + context) }

/-- Shortens an unchanged stretch at the start. -/
def trimStart : List Edit → List Edit
  | e :: rest => (if e.tag = .equal then e.lastLines else e) :: rest
  | [] => []

/-- Shortens an unchanged stretch at the end. -/
def trimEnd : List Edit → List Edit
  | [] => []
  | [e] => [if e.tag = .equal then e.firstLines else e]
  | e :: rest => e :: trimEnd rest

/-- Whether edits make a hunk: unchanged lines alone do not. -/
def isHunk (group : List Edit) : Bool := group.any (·.tag != .equal)

/-- Cuts edits into hunks, within unchanged stretches that are too long
to show; `group` holds the edits of the hunk so far, last first. -/
def groupEdits (group : List Edit) : List Edit → List (List Edit)
  | [] => if isHunk group then [group.reverse] else []
  | e :: rest =>
    if e.tag = .equal && e.leftEnd - e.leftStart > 2 * context then
      (e.firstLines :: group).reverse :: groupEdits [e.lastLines] rest
    else groupEdits (e :: group) rest

/-- The hunks of two lists of lines. -/
def hunks (left right : List String) : List (List Edit) :=
  groupEdits [] (trimEnd (trimStart (edits left right)))

/-! ### Text -/

/-- A range of lines: where it starts, counted from one, and how many
lines it has unless that is one. An empty range names the line before. -/
def rangeText (start finish : Nat) : String :=
  let size := finish - start
  if size = 1 then toString (start + 1)
  else if size = 0 then toString start ++ ",0"
  else toString (start + 1) ++ "," ++ toString size

/-- The lines from `start` to `finish`, each behind a mark. -/
def marked (mark : String) (lines : List String) (start finish : Nat) :
    List String :=
  ((lines.drop start).take (finish - start)).map (mark ++ ·)

/-- The lines of an edit. -/
def Edit.lines (e : Edit) (left right : List String) : List String :=
  match e.tag with
  | .equal => marked " " left e.leftStart e.leftEnd
  | _ =>
    marked "-" left e.leftStart e.leftEnd ++ marked "+" right e.rightStart e.rightEnd

/-- The lines of a hunk. -/
def hunkLines (left right : List String) (group : List Edit) : List String :=
  match group.head?, group.getLast? with
  | some first, some last =>
    ("@@ -" ++ rangeText first.leftStart last.leftEnd ++ " +" ++
      rangeText first.rightStart last.rightEnd ++ " @@") ::
      group.flatMap fun e => e.lines left right
  | _, _ => []

/-- The lines of a diff under the names of the two sides. -/
def unifiedLines (leftName rightName : String) (left right : List String) :
    List String :=
  match hunks left right with
  | [] => []
  | groups =>
    ("--- " ++ leftName) :: ("+++ " ++ rightName) ::
      groups.flatMap (hunkLines left right)

end Diff

/-- How the text of a file would change. -/
def unifiedDiff (path existing content : String) : String :=
  "\n".intercalate (Diff.unifiedLines ("a/" ++ path) ("b/" ++ path)
    (Text.splitLines existing) (Text.splitLines content))

end IdeProjects
