/-!
# `IdeProjects.Text.Lines`: where a line ends

Two readings of line ends occur. A comparison of two texts line by line
breaks at every character Unicode counts as a line boundary
(`splitLines`); a document that is read has its carriage returns turned
into line feeds first (`unifyNewlines`).
-/

set_option autoImplicit false

namespace IdeProjects.Text

/-- The characters that end a line on their own. -/
def isLineBreak (c : Char) : Bool :=
  c == '\n' || c == '\r' || c == '\x0b' || c == '\x0c' || c == '\x1c' ||
  c == '\x1d' || c == '\x1e' || c == '\u0085' || c == '\u2028' || c == '\u2029'

/-- The lines of a text that starts inside a line; `line` holds the
characters of that line, last first. A carriage return and the line
feed after it are one break, and a break at the very end opens no
further line. -/
def linesAfter (line : List Char) : List Char → List (List Char)
  | [] => if line.isEmpty then [] else [line.reverse]
  | '\r' :: '\n' :: rest => line.reverse :: linesAfter [] rest
  | c :: rest =>
    if isLineBreak c then line.reverse :: linesAfter [] rest
    else linesAfter (c :: line) rest

/-- The lines of a text, without their breaks. -/
def splitLines (s : String) : List String :=
  (linesAfter [] s.toList).map String.ofList

/-- A carriage return, alone or before a line feed, becomes one line
feed. -/
def unifyNewlines : List Char → List Char
  | [] => []
  | '\r' :: '\n' :: rest => '\n' :: unifyNewlines rest
  | '\r' :: rest => '\n' :: unifyNewlines rest
  | c :: rest => c :: unifyNewlines rest

/-- A text without carriage returns is unified already. -/
theorem unifyNewlines_eq_self {cs : List Char} (h : '\r' ∉ cs) :
    unifyNewlines cs = cs := by
  fun_induction unifyNewlines cs with
  | case1 => rfl
  | case2 => simp at h
  | case3 => simp at h
  | case4 c rest _ _ ih => simp_all

end IdeProjects.Text
