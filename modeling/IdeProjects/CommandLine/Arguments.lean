import IdeProjects.Text.Tables
import IdeProjects.Text.Quoted

/-!
# `IdeProjects.CommandLine.Arguments`: reading arguments

A command has a form: the options it knows, those it must have, and
what becomes of its operands. Arguments are first told apart one by one
(`CommandForm.classify`), then read in order (`CommandForm.readFrom`).

An option may be shortened as long as it stays unambiguous, and its
value may follow as the next argument or after `=`. After a `--` every
argument is an operand. An argument that looks like an option and is
none is kept as a leftover, unless it is a negative number or has a
blank in it; then it is an operand.

The operands of a command are the first run of operands without an
option between them. A command that hands its operands on takes all
that follows the first of them as well.
-/

set_option autoImplicit false

namespace IdeProjects

/-- The options of all commands. -/
inductive CommandOption where
  | help
  | units
  | config
  | installRoot
  | outputDir
  | check
  | dryRun
  | noDiff
  | reportJson
  | verbose
  deriving DecidableEq, Repr

namespace CommandOption

/-- The spellings of an option. -/
def spellings : CommandOption → List String
  | .help => ["-h", "--help"]
  | .units => ["--units"]
  | .config => ["--config"]
  | .installRoot => ["--install-root"]
  | .outputDir => ["--output-dir"]
  | .check => ["--check"]
  | .dryRun => ["--dry-run"]
  | .noDiff => ["--no-diff"]
  | .reportJson => ["--report-json"]
  | .verbose => ["--verbose"]

/-- Whether an option has a value. -/
def takesValue : CommandOption → Bool
  | .units | .config | .installRoot | .outputDir | .reportJson => true
  | .help | .check | .dryRun | .noDiff | .verbose => false

/-- An option in a message. -/
def label (o : CommandOption) : String := "/".intercalate o.spellings

end CommandOption

/-- What becomes of the operands of a command: it has none, it needs
some, or it hands them on with all that follows. -/
inductive OperandRule where
  | refused
  | needed (label : String)
  | handedOn (label : String)
  deriving DecidableEq, Repr

/-- What a command accepts. -/
structure CommandForm where
  program : String
  options : List CommandOption
  required : List CommandOption := []
  operands : OperandRule
  deriving Repr

/-- Why arguments are turned down. -/
inductive UsageError where
  | ambiguous (text : String) (candidates : List String)
  | expectedValue (option : CommandOption)
  | ignoredValue (option : CommandOption) (value : String)
  | missing (labels : List String)
  | unknownCommand (text : String) (known : List String)
  | unrecognized (texts : List String)
  deriving DecidableEq, Repr

def UsageError.message : UsageError → String
  | .ambiguous text candidates =>
    "ambiguous option: " ++ text ++ " could match " ++ ", ".intercalate candidates
  | .expectedValue option => "argument " ++ option.label ++ ": expected one argument"
  | .ignoredValue option value =>
    "argument " ++ option.label ++ ": ignored explicit argument " ++ Text.quoted value
  | .missing labels =>
    "the following arguments are required: " ++ ", ".intercalate labels
  | .unknownCommand text known =>
    "argument command: invalid choice: " ++ Text.quoted text ++ " (choose from " ++
      ", ".intercalate (known.map Text.quoted) ++ ")"
  | .unrecognized texts => "unrecognized arguments: " ++ " ".intercalate texts

/-- Why a program ends without running a command. -/
inductive Halt where
  | help (form : CommandForm)
  | misuse (program : String) (error : UsageError)
  deriving Repr

/-! ### One argument -/

/-- An argument on its own. -/
inductive Argument where
  | operand (text : String)
  | option (text : String) (option : CommandOption) (isLetter : Bool)
      (value? : Option String)
  | unknown (text : String)
  | separator
  deriving DecidableEq, Repr

/-- An argument as it was given. -/
def Argument.text : Argument → String
  | .operand text => text
  | .option text _ _ _ => text
  | .unknown text => text
  | .separator => "--"

/-- Whether characters are digits, at least one. -/
def isDigits (cs : List Char) : Bool := !cs.isEmpty && cs.all Text.isDecimalDigit

/-- Whether what follows a hyphen makes it a negative number: digits, or
digits after a point with or without some before it. A line feed at the
end does not count. -/
def isMagnitude (cs : List Char) : Bool :=
  let cs := if cs.getLast? = some '\n' then cs.dropLast else cs
  isDigits cs ||
    match cs.dropWhile Text.isDecimalDigit with
    | '.' :: places => isDigits places
    | _ => false

/-- The characters before the first `=` and, if there is one, the text
after it. -/
def cutAtEquals (cs : List Char) : List Char × Option String :=
  match cs.dropWhile (· != '=') with
  | [] => (cs, none)
  | _ :: value => (cs.takeWhile (· != '='), some (String.ofList value))

/-- Whether a spelling is a hyphen and a letter. -/
def isLetterSpelling (spelling : List Char) : Bool := spelling.length == 2

namespace CommandForm

variable (form : CommandForm)

/-- All spellings of the options of a form, in order. -/
def spellings : List (List Char × CommandOption) :=
  form.options.flatMap fun o => o.spellings.map fun s => (s.toList, o)

/-- The argument of a spelling. -/
def optionOf (text : String) (value? : Option String)
    (entry : List Char × CommandOption) : Argument :=
  .option text entry.2 (isLetterSpelling entry.1) value?

/-- The option with exactly this spelling. -/
def spelled? (cs : List Char) : Option (List Char × CommandOption) :=
  form.spellings.find? (·.1 == cs)

/-- The options an argument may mean, if none has its spelling. After
two hyphens a spelling may be shortened; after one, the first letter may
be an option with the rest behind it. -/
def candidates (cs : List Char) :
    List ((List Char × CommandOption) × Option String) :=
  if "--".toList.isPrefixOf cs then
    let (start, value?) := cutAtEquals cs
    (form.spellings.filter fun entry => start.isPrefixOf entry.1).map (·, value?)
  else
    (form.spellings.filter fun entry => entry.1 == cs.take 2).map
      (·, some (String.ofList (cs.drop 2)))

/-- Whether an argument that looks like an option is an operand all the
same. -/
def isOperandAnyway (cs : List Char) : Bool :=
  isMagnitude cs.tail || cs.contains ' '

/-- Tells what an argument is, if none before it was `--`. -/
def classify (text : String) : Except UsageError Argument :=
  let cs := text.toList
  if cs.head? != some '-' then .ok (.operand text)
  else match form.spelled? cs with
    | some entry => .ok (optionOf text none entry)
    | none =>
      if cs.length = 1 then .ok (.operand text)
      else match cutAtEquals cs with
        | (start, some value) =>
          match form.spelled? start with
          | some entry => .ok (optionOf text (some value) entry)
          | none => guess cs
        | (_, none) => guess cs
where
  /-- What an argument without an exact spelling may mean. -/
  guess (cs : List Char) : Except UsageError Argument :=
    match form.candidates cs with
    | [(entry, value?)] => .ok (optionOf text value? entry)
    | [] => .ok (if isOperandAnyway cs then .operand text else .unknown text)
    | many => .error (.ambiguous text (many.map fun c => String.ofList c.1.1))

/-- Tells arguments apart; after `--` all are operands. -/
def classifyAll : List String → Except UsageError (List Argument)
  | [] => .ok []
  | text :: rest =>
    if text = "--" then .ok (.separator :: rest.map .operand)
    else do
      let argument ← form.classify text
      return argument :: (← classifyAll rest)

end CommandForm

/-! ### All arguments -/

/-- What the arguments of a command say: its options in order, its
operands, and what it has no use for. An option whose value is a `--`
alone has no value. -/
structure Arguments where
  options : List (CommandOption × Option String) := []
  operands : List String := []
  leftovers : List String := []
  deriving DecidableEq, Repr

namespace Arguments

def addOption (o : CommandOption) (value? : Option String) (a : Arguments) :
    Arguments :=
  { a with options := (o, value?) :: a.options }

def addOperand (text : String) (a : Arguments) : Arguments :=
  { a with operands := text :: a.operands }

def addLeftover (text : String) (a : Arguments) : Arguments :=
  { a with leftovers := text :: a.leftovers }

/-- Whether an option is given. -/
def has (a : Arguments) (o : CommandOption) : Bool := a.options.any (·.1 == o)

/-- The value of an option; the last one counts. -/
def value? (a : Arguments) (o : CommandOption) : Option String :=
  (a.options.reverse.find? (·.1 == o)).bind (·.2)

end Arguments

/-- Where the operands of a command stand: none yet, in the run of them,
or after it. -/
inductive OperandSlot where
  | awaited
  | taking
  | closed
  deriving DecidableEq, Repr

/-- An option ends a run of operands. -/
def OperandSlot.afterOption : OperandSlot → OperandSlot
  | .awaited => .awaited
  | _ => .closed

/-- The slot that a form starts with. -/
def OperandRule.slot : OperandRule → OperandSlot
  | .refused => .closed
  | _ => .awaited

/-- The value that a text after `=` is for an option. -/
def valueOf (text : String) : Option String := if text = "--" then none else some text

namespace CommandForm

variable (form : CommandForm)

/-- The end of reading at an option without a value that has one all the
same. Letters may stand together behind one hyphen, and `-h` is the only
letter. -/
def haltAt (o : CommandOption) (isLetter : Bool) (value : String) : Halt :=
  if isLetter then
    match value.toList.dropWhile (· == 'h') with
    | [] =>
      if value = "" then .misuse form.program (.ignoredValue o value) else .help form
    | rest => .misuse form.program (.ignoredValue o (String.ofList rest))
  else .misuse form.program (.ignoredValue o value)

/-- Reads arguments in order. -/
def readFrom (slot : OperandSlot) : List Argument → Except Halt Arguments
  | [] => .ok {}
  | .unknown text :: rest =>
    (readFrom slot.afterOption rest).map (Arguments.addLeftover text)
  | .option _ o isLetter (some value) :: rest =>
    if o.takesValue then
      (readFrom slot.afterOption rest).map (Arguments.addOption o (valueOf value))
    else .error (form.haltAt o isLetter value)
  | .option _ o _ none :: rest =>
    if o = .help then .error (.help form)
    else if o.takesValue then
      match rest with
      | .operand value :: rest =>
        (readFrom slot.afterOption rest).map (Arguments.addOption o (some value))
      | _ => .error (.misuse form.program (.expectedValue o))
    else (readFrom slot.afterOption rest).map (Arguments.addOption o none)
  | .separator :: rest =>
    match slot, form.operands, rest with
    | .awaited, .handedOn _, _ :: _ =>
      .ok { operands := "--" :: rest.map Argument.text }
    | .awaited, .needed _, _ :: _ => readFrom .taking rest
    | .taking, _, _ => readFrom .taking rest
    | _, _, _ => (readFrom .closed rest).map (Arguments.addLeftover "--")
  | .operand text :: rest =>
    match slot, form.operands with
    | .closed, _ => (readFrom .closed rest).map (Arguments.addLeftover text)
    | _, .handedOn _ => .ok { operands := text :: rest.map Argument.text }
    | _, _ => (readFrom .taking rest).map (Arguments.addOperand text)

/-- What a form needs and does not get. -/
def missing (a : Arguments) : List String :=
  (form.required.filter fun o => !a.has o).map CommandOption.label ++
    match form.operands with
    | .refused => []
    | .needed label | .handedOn label => if a.operands.isEmpty then [label] else []

/-- Reads the arguments of a command. -/
def read (texts : List String) : Except Halt Arguments := do
  let arguments ← match form.classifyAll texts with
    | .ok arguments => .ok arguments
    | .error error => .error (.misuse form.program error)
  let result ← form.readFrom form.operands.slot arguments
  if (form.missing result).isEmpty then return result
  else .error (.misuse form.program (.missing (form.missing result)))

end CommandForm

end IdeProjects
