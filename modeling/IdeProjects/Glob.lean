import IdeProjects.Text.Case.Lower

/-!
# `IdeProjects.Glob`: patterns for file names

A pattern describes file names: `*` stands for any characters, `?` for
one, and a class in brackets for one character out of a set. In a class
a hyphen between two characters is a range, `!` at the start turns the
set into its complement, and `]` at the start is a member. A bracket
that is never closed stands for itself.

A range whose ends are in the wrong order holds nothing and takes its
ends along; a class that is left without members matches no character.
Case is ignored: both sides are compared in lower case.
-/

set_option autoImplicit false

namespace IdeProjects

namespace Glob

/-- A part of a pattern. -/
inductive Part where
  | anyText
  | anyChar
  | char (c : Char)
  | oneOf (negated : Bool) (members : List Char) (ranges : List (Char × Char))
  deriving DecidableEq, Repr

/-! ### Classes -/

/-- Cuts the text of a class at the hyphens that make ranges. The first
`skip` characters are members even if they are hyphens, and so are the
two after each cut; `chunk` holds the stretch before, last first. -/
def chunksFrom (skip : Nat) (chunk : List Char) : List Char → List (List Char)
  | [] => [chunk.reverse]
  | c :: rest =>
    if skip = 0 && c = '-' then chunk.reverse :: chunksFrom 2 [] rest
    else chunksFrom (skip - 1) (c :: chunk) rest

/-- A hyphen at the end of a class is a member of the stretch before
it. -/
def keepFinalHyphen : List (List Char) → List (List Char)
  | [] => []
  | [chunk] => [chunk]
  | [chunk, []] => [chunk ++ ['-']]
  | chunk :: rest => chunk :: keepFinalHyphen rest

/-- Drops the ranges whose ends are in the wrong order, from the last
one on. -/
def dropEmptyRanges : List (List Char) → List (List Char)
  | [] => []
  | chunk :: rest =>
    match dropEmptyRanges rest with
    | [] => [chunk]
    | next :: more =>
      match chunk.getLast?, next.head? with
      | some low, some high =>
        if low > high then (chunk.dropLast ++ next.tail) :: more
        else chunk :: next :: more
      | _, _ => chunk :: next :: more

/-- The stretches of a class between the hyphens that make ranges. -/
def chunks (cs : List Char) : List (List Char) :=
  let skip := if cs.head? = some '!' then 2 else 1
  dropEmptyRanges (keepFinalHyphen (chunksFrom skip [] cs))

/-- The ranges between neighbouring stretches. -/
def rangesOf : List (List Char) → List (Char × Char)
  | chunk :: next :: rest =>
    match chunk.getLast?, next.head? with
    | some low, some high => (low, high) :: rangesOf (next :: rest)
    | _, _ => rangesOf (next :: rest)
  | _ => []

/-- The part that a class stands for. After a `!` that has lost all that
stood between it and a hyphen, the hyphen is a member. -/
def classPart (cs : List Char) : Part :=
  match chunks cs with
  | ['!'] :: next :: rest =>
    .oneOf true ('-' :: (next :: rest).flatten) (rangesOf (next :: rest))
  | ('!' :: first) :: rest =>
    .oneOf true (first ++ rest.flatten) (rangesOf (first :: rest))
  | all => .oneOf false all.flatten (rangesOf all)

/-- Splits off the text of a class that stands after its opening
bracket, if the bracket is closed. -/
def closedClass? (cs : List Char) : Option (List Char × List Char) :=
  let (bang, cs) := if cs.head? = some '!' then (['!'], cs.tail) else ([], cs)
  let (bracket, cs) := if cs.head? = some ']' then ([']'], cs.tail) else ([], cs)
  match cs.dropWhile (· != ']') with
  | [] => none
  | _ :: rest => some (bang ++ bracket ++ cs.takeWhile (· != ']'), rest)

/-! ### Patterns -/

/-- The parts of a pattern; each takes at least one character, so the
length of the pattern is fuel enough. -/
def partsWithin : (fuel : Nat) → List Char → List Part
  | 0, _ => []
  | _, [] => []
  | fuel + 1, c :: rest =>
    if c = '*' then .anyText :: partsWithin fuel rest
    else if c = '?' then .anyChar :: partsWithin fuel rest
    else if c = '[' then
      match closedClass? rest with
      | some (members, rest) => classPart members :: partsWithin fuel rest
      | none => .char '[' :: partsWithin fuel rest
    else .char c :: partsWithin fuel rest

/-- The parts of a pattern. -/
def parts (pattern : List Char) : List Part := partsWithin pattern.length pattern

/-- Whether a part that stands for one character allows it. -/
def Part.allows : Part → Char → Bool
  | .anyText, _ => false
  | .anyChar, _ => true
  | .char expected, c => c == expected
  | .oneOf negated members ranges, c =>
    let found := members.contains c ||
      ranges.any fun range => range.1 ≤ c && c ≤ range.2
    found != negated

/-- Whether a test holds for some end of a text. -/
def anySuffix (test : List Char → Bool) : List Char → Bool
  | [] => test []
  | c :: rest => test (c :: rest) || anySuffix test rest

/-- Whether parts describe a whole text. -/
def describes : List Part → List Char → Bool
  | [], cs => cs.isEmpty
  | .anyText :: rest, cs => anySuffix (describes rest) cs
  | _ :: _, [] => false
  | part :: rest, c :: cs => part.allows c && describes rest cs

/-! ### Matching in one pass per part

`describes` tries every way to share a text out among the stars of a
pattern. `answers` has the same answers, for all ends of the text at
once, and works them out from the last part of the pattern to the first,
so that its work grows only with the product of the two lengths.
-/

/-- At each place whether there is a true one there or later. -/
def trueFrom : List Bool → List Bool
  | [] => []
  | b :: rest =>
    let later := trueFrom rest
    (b || later.headD false) :: later

/-- The answers for a part that stands for one character, given those
for what follows it. -/
def throughPart (part : Part) : List Char → List Bool → List Bool
  | c :: cs, _ :: after =>
    (part.allows c && after.headD false) :: throughPart part cs after
  | _, _ => [false]

/-- For each end of a text, the whole text first, whether parts describe
it. -/
def answers : List Part → List Char → List Bool
  | [], cs => cs.map (fun _ => false) ++ [true]
  | .anyText :: rest, cs => trueFrom (answers rest cs)
  | part :: rest, cs => throughPart part cs (answers rest cs)

/-- Whether parts describe a whole text. -/
def matchesParts (parts : List Part) (cs : List Char) : Bool :=
  (answers parts cs).headD false

/-- The answers of `describes` for all ends of a text. -/
def answersOf (parts : List Part) : List Char → List Bool
  | [] => [describes parts []]
  | c :: cs => describes parts (c :: cs) :: answersOf parts cs

/-- The first of the answers is that for the whole text. -/
theorem headD_answersOf (parts : List Part) (cs : List Char) :
    (answersOf parts cs).headD false = describes parts cs := by
  cases cs <;> rfl

/-- A star in front matches an end of the text if what follows matches that
end or a shorter one. -/
theorem trueFrom_answersOf (parts : List Part) (cs : List Char) :
    trueFrom (answersOf parts cs) = answersOf (.anyText :: parts) cs := by
  induction cs with
  | nil => simp [answersOf, trueFrom, describes, anySuffix]
  | cons c cs ih =>
    rw [answersOf, trueFrom, ih, headD_answersOf]
    simp [answersOf, describes, anySuffix]

/-- A part for one character takes the first one, and what follows has to
match the rest. -/
theorem throughPart_answersOf (part : Part) (h : part ≠ .anyText)
    (parts : List Part) (cs : List Char) :
    throughPart part cs (answersOf parts cs) = answersOf (part :: parts) cs := by
  induction cs with
  | nil => cases part <;> simp_all [answersOf, throughPart, describes]
  | cons c cs ih =>
    rw [answersOf, throughPart, ih, headD_answersOf]
    cases part <;> simp_all [answersOf, describes]

/-- The answers that are worked out part by part are those of `describes`, by
induction on the parts. -/
theorem answers_eq_answersOf (parts : List Part) (cs : List Char) :
    answers parts cs = answersOf parts cs := by
  induction parts with
  | nil =>
    rw [answers]
    induction cs with
    | nil => rfl
    | cons c cs ih => simp [answersOf, describes, ← ih]
  | cons part rest ih =>
    by_cases h : part = .anyText
    · subst h
      rw [answers, ih, trueFrom_answersOf]
    · have step : answers (part :: rest) cs = throughPart part cs (answers rest cs) := by
        cases part <;> simp_all [answers]
      rw [step, ih, throughPart_answersOf part h]

/-- The quick way and the plain way agree. -/
theorem matchesParts_eq_describes (parts : List Part) (cs : List Char) :
    matchesParts parts cs = describes parts cs := by
  rw [matchesParts, answers_eq_answersOf, headD_answersOf]

end Glob

/-- Whether a pattern describes a file name, up to case. -/
def globMatches (pattern name : String) : Bool :=
  Glob.matchesParts (Glob.parts (Text.lowerChars pattern.toList))
    (Text.lowerChars name.toList)

end IdeProjects
