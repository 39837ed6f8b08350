import IdeProjects.Json.Literal

/-!
# `IdeProjects.Schema.Violation`: what a document gets wrong

A violation says which rule a value breaks and where the value stands in
the document. A document has a list of them, in the order of the
schema's rules. What a message shows of a value is kept as it is shown,
so that violations of all documents are of one type, whatever texts the
document has. Two readings of the list are in use: all of them in the
order of their places (`inOrder`), and the one that matters most
(`foremost?`).
-/

set_option autoImplicit false

namespace IdeProjects

/-- One step on the way to a part of a document. -/
inductive Place where
  | field (name : String)
  | item (index : Nat)
  deriving DecidableEq, Repr

namespace Place

def text : Place → String
  | .field name => name
  | .item index => toString index

/-- How two steps from one value compare: names by their characters,
items by their number. -/
def order : Place → Place → Ordering
  | .field a, .field b => compare a b
  | .item a, .item b => compare a b
  | .field _, .item _ => .lt
  | .item _, .field _ => .gt

end Place

/-- The kinds of values a rule can ask for. -/
inductive ValueKind where
  | object
  | array
  | text
  | boolean
  deriving DecidableEq, Repr

namespace ValueKind

def name : ValueKind → String
  | .object => "object"
  | .array => "array"
  | .text => "string"
  | .boolean => "boolean"

/-- Whether a value is of the kind. -/
def holds {τ : Type} : ValueKind → Json τ → Bool
  | .object, .object _ => true
  | .array, .array _ => true
  | .text, .text _ => true
  | .boolean, .bool _ => true
  | _, _ => false

end ValueKind

/-- The rule that a value breaks, with the literal of the value or the
literals of the names that are too many. -/
inductive Breach where
  | wrongKind (shown : String) (kind : ValueKind)
  | empty (shown : String)
  | notPlain (shown : String)
  | reserved (shown : String)
  | notAmong (shown : String) (allowed : List String)
  | missing (name : String)
  | unexpected (shown : List String)
  deriving DecidableEq

namespace Breach

/-- The pattern of plain names, as messages show it. -/
def plainPattern : String := "^[^/\\\\]+$"

def message : Breach → String
  | .wrongKind shown kind => shown ++ " is not of type " ++ Text.quoted kind.name
  | .empty shown => shown ++ " should be non-empty"
  | .notPlain shown => shown ++ " does not match " ++ Text.quoted plainPattern
  | .reserved shown =>
    shown ++ " should not be valid under \x7b'enum': ['.', '..']\x7d"
  | .notAmong shown allowed =>
    shown ++ " is not one of [" ++ ", ".intercalate (allowed.map Text.quoted) ++ "]"
  | .missing name => Text.quoted name ++ " is a required property"
  | .unexpected shown =>
    let verb := if shown.length = 1 then "was" else "were"
    "Additional properties are not allowed (" ++ ", ".intercalate shown ++ " " ++
      verb ++ " unexpected)"

end Breach

/-- A broken rule with the place of the value, from the root of the
document. `ofKind` says whether that value has the kind its schema names;
a schema that names no kind counts as not met. -/
structure Violation where
  place : List Place
  breach : Breach
  ofKind : Bool
  deriving DecidableEq

namespace Violation

/-- The violation seen from one step further out. -/
def under (step : Place) (v : Violation) : Violation :=
  ⟨step :: v.place, v.breach, v.ofKind⟩

/-- The steps as texts. -/
def steps (v : Violation) : List String := v.place.map Place.text

/-- The place as a message names it. -/
def location (v : Violation) : String :=
  if v.place.isEmpty then "<root>" else "/".intercalate v.steps

/-- One line about the violation. -/
def describe (v : Violation) : String :=
  v.location ++ ": " ++ v.breach.message

/-- Whether a list of texts comes before another or is equal to it, part
by part. -/
def stepsLe : List String → List String → Bool
  | [], _ => true
  | _ :: _, [] => false
  | a :: as, b :: bs => if a = b then stepsLe as bs else a < b

/-- All violations, by their places as texts; those of one place stay in
the order of the schema. -/
def inOrder (vs : List Violation) : List Violation :=
  vs.mergeSort fun v w => stepsLe v.steps w.steps

/-- How two lists of steps compare, step by step. -/
def comparePlaces : List Place → List Place → Ordering
  | [], [] => .eq
  | [], _ :: _ => .lt
  | _ :: _, [] => .gt
  | a :: as, b :: bs => (a.order b).then (comparePlaces as bs)

/-- Whether `v` matters more than `w`: a value nearer to the root does,
then one that stands later among its siblings, then one that lacks the
kind it should have. -/
def outranks (v w : Violation) : Bool :=
  match compare w.place.length v.place.length with
  | .gt => true
  | .lt => false
  | .eq => match comparePlaces v.place w.place with
    | .gt => true
    | .lt => false
    | .eq => w.ofKind && !v.ofKind

/-- The violation that matters most, the first of equals. -/
def foremost? : List Violation → Option Violation
  | [] => none
  | v :: rest =>
    some (rest.foldl (fun best w => if w.outranks best then w else best) v)

end Violation

end IdeProjects
