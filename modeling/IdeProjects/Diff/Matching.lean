/-!
# `IdeProjects.Diff.Matching`: what two lists of lines have in common

Two lists are matched block by block: the longest run of equal lines is
found, the first in the left list and then in the right one of equals,
and what stands before it and after it is matched in the same way.

In a long right-hand list (`crowded` lines and more) lines that occur
often say little. They start no run, but a run that is found is extended
over them at both ends.

The longest run comes from a table of run lengths. Its row for a line of
the left list holds, for each line of the right list, the length of the
run that ends with the two; a row follows from the one before.
-/

set_option autoImplicit false

namespace IdeProjects

namespace Diff

/-- A run of `size` equal lines, from `left` in one list and from
`right` in the other. -/
structure Block where
  left : Nat
  right : Nat
  size : Nat
  deriving DecidableEq, Repr

/-- A line of the right-hand list, and whether it may start a run. -/
structure Target where
  line : String
  starts : Bool

/-- From this many lines on, frequent lines start no run. -/
def crowded : Nat := 200

/-- The lines of the right-hand list; a line is frequent when more than
one in a hundred lines, and one more, are equal to it. -/
def targets (right : List String) : List Target :=
  let limit := right.length / 100 + 1
  right.map fun line =>
    ⟨line, right.length < crowded || right.count line ≤ limit⟩

/-- The next row of run lengths. -/
def nextRow (line : String) (right : List Target) (row : List Nat) : List Nat :=
  List.zipWith (fun target before =>
    if target.starts && target.line == line then before + 1 else 0)
    right (0 :: row)

/-- The better of the best run so far and the runs of a row; `i` is the
line of the row and `j` the next column. -/
def bestInRow (i j : Nat) (best : Block) : List Nat → Block
  | [] => best
  | size :: rest =>
    let best := if size > best.size then ⟨i + 1 - size, j + 1 - size, size⟩ else best
    bestInRow i (j + 1) best rest

/-- The best run among the rows of the lines from `i` on. -/
def bestRun (right : List Target) (i : Nat) (row : List Nat) (best : Block) :
    List String → Block
  | [] => best
  | line :: rest =>
    let row := nextRow line right row
    bestRun right (i + 1) row (bestInRow i 0 best row) rest

/-- How many lines two lists share at their start. -/
def commonLength : List String → List String → Nat
  | a :: as, b :: bs => if a = b then commonLength as bs + 1 else 0
  | _, _ => 0

/-- A run extended over all equal lines before and after it. -/
def Block.extend (b : Block) (left right : List String) : Block :=
  let before := commonLength (left.take b.left).reverse (right.take b.right).reverse
  let after := commonLength (left.drop (b.left + b.size))
    (right.drop (b.right + b.size))
  ⟨b.left - before, b.right - before, before + b.size + after⟩

/-- The longest run of two lists. -/
def longestRun (left : List String) (right : List Target) : Block :=
  (bestRun right 0 (right.map fun _ => 0) ⟨0, 0, 0⟩ left).extend left
    (right.map (·.line))

/-- A block seen from lists that start earlier. -/
def Block.shift (b : Block) (left right : Nat) : Block :=
  ⟨b.left + left, b.right + right, b.size⟩

/-- The blocks of two lists in order. Each block takes at least one line
of the left list, so its length is fuel enough. -/
def blocksWithin : (fuel : Nat) → List String → List Target → List Block
  | 0, _, _ => []
  | fuel + 1, left, right =>
    let b := longestRun left right
    if b.size = 0 then []
    else
      let leftEnd := b.left + b.size
      let rightEnd := b.right + b.size
      blocksWithin fuel (left.take b.left) (right.take b.right) ++ b ::
        (blocksWithin fuel (left.drop leftEnd) (right.drop rightEnd)).map
          (·.shift leftEnd rightEnd)

/-- Blocks that touch in both lists become one. -/
def joinTouching : List Block → List Block
  | [] => []
  | b :: rest =>
    match joinTouching rest with
    | next :: more =>
      if b.left + b.size = next.left && b.right + b.size = next.right then
        ⟨b.left, b.right, b.size + next.size⟩ :: more
      else b :: next :: more
    | [] => [b]

/-- The blocks that two lists of lines have in common. -/
def blocks (left right : List String) : List Block :=
  joinTouching (blocksWithin (left.length + 1) left (targets right))

end Diff

end IdeProjects
