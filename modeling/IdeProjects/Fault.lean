import IdeProjects.Json.Reader
import IdeProjects.Schema.Documents
import IdeProjects.Text.Utf8

/-!
# `IdeProjects.Fault`: why an operation ends early, and what it tells

Every operation that can end early says why in a `Fault`. A `Refusal` is
the tool's own verdict on what it was given and is reported to the user
as such; the other faults come from the files and the values an
operation met. The wording of each stands in one `message` function.

What an operation has to tell beside its result are `LogEntry`s, which it
hands back with it. Who shows them decides by the level whether and where.
-/

set_option autoImplicit false

namespace IdeProjects

/-! ### The log -/

/-- How much an entry matters, least first. -/
inductive LogLevel where
  | debug
  | info
  | warning
  | error
  deriving DecidableEq, Repr

def LogLevel.name : LogLevel → String
  | .debug => "DEBUG"
  | .info => "INFO"
  | .warning => "WARNING"
  | .error => "ERROR"

/-- A level and a message. -/
structure LogEntry where
  level : LogLevel
  message : String
  deriving DecidableEq, Repr

/-- Whether an entry is shown; details only on request. -/
def LogEntry.isShown (verbose : Bool) (e : LogEntry) : Bool :=
  verbose || e.level != .debug

def LogEntry.text (e : LogEntry) : String := e.level.name ++ ": " ++ e.message

/-! ### Files -/

/-- Why the file system turns a request down. -/
inductive FileIssue where
  | notFound
  | exists
  | notDirectory
  | isDirectory
  | nameTooLong
  deriving DecidableEq, Repr

namespace FileIssue

/-- The number of the condition. -/
def number : FileIssue → Nat
  | .notFound => 2
  | .exists => 17
  | .notDirectory => 20
  | .isDirectory => 21
  | .nameTooLong => 36

def text : FileIssue → String
  | .notFound => "No such file or directory"
  | .exists => "File exists"
  | .notDirectory => "Not a directory"
  | .isDirectory => "Is a directory"
  | .nameTooLong => "File name too long"

end FileIssue

/-- A request that was turned down, with the path as it was written. -/
structure FileError where
  issue : FileIssue
  path : String
  deriving DecidableEq, Repr

def FileError.message (e : FileError) : String :=
  "[Errno " ++ toString e.issue.number ++ "] " ++ e.issue.text ++ ": " ++
    Text.quoted e.path

/-! ### Refusals -/

/-- What the tool refuses. -/
inductive Refusal where
  | unreadable (path cause : String)
  | malformed (path : String) (issue : Json.Issue) (position : Json.Position)
  | rootNotObject (path : String)
  | unknownSchema (name : String)
  | violates (kind : DocumentKind) (violation : Violation)
  | missingConfig (path : String)
  | noInstallRoot
  | badCollisionSetting
  | unknownCollisionMode (name : String)
  deriving DecidableEq

def Refusal.message : Refusal → String
  | .unreadable path cause =>
    "Unable to read JSON file '" ++ path ++ "': " ++ cause
  | .malformed path issue position =>
    "Invalid JSON in '" ++ path ++ "': " ++ issue.message ++ ": " ++
      position.message
  | .rootNotObject path => "JSON root in '" ++ path ++ "' must be an object"
  | .unknownSchema name => "Unknown schema kind: " ++ name
  | .violates kind violation =>
    kind.name ++ " failed JSON schema validation at " ++ violation.describe
  | .missingConfig path => "Config file does not exist: " ++ path
  | .noInstallRoot =>
    "No install root given: pass --install-root or set 'install_root' in the config or unit snapshot."
  | .badCollisionSetting =>
    "reference_collisions must be one of: " ++
      ", ".intercalate Schema.collisionNames
  | .unknownCollisionMode name => "Unknown reference collision mode: " ++ name

/-! ### Faults -/

/-- The name of a kind of value in a message. -/
def Json.Kind.name : Json.Kind → String
  | .null => "NoneType"
  | .boolean => "bool"
  | .integer => "int"
  | .real => "float"
  | .text => "str"
  | .array => "list"
  | .object => "dict"

/-- What a text is needed for: as a value in a file, as a pattern for
names, as an item of a joined list, or as a part of a path. -/
inductive TextNeed where
  | value
  | pattern
  | item (index : Nat)
  | pathPart
  deriving DecidableEq, Repr

/-- What is said where a value of another kind stands. -/
def TextNeed.message (kind : Json.Kind) : TextNeed → String
  | .value => Text.quoted kind.name ++ " object has no attribute 'replace'"
  | .pattern => Text.quoted kind.name ++ " object has no attribute 'lower'"
  | .item index =>
    "sequence item " ++ toString index ++ ": expected str instance, " ++ kind.name ++
      " found"
  | .pathPart =>
    "unsupported operand type(s) for /: 'PosixPath' and " ++ Text.quoted kind.name

/-- Why an operation ended early. -/
inductive Fault where
  | refusal (refusal : Refusal)
  | file (error : FileError)
  | nullCharacter
  | encoding (malformed : Text.Utf8.Malformed)
  /-- A whole number is too long; of one that was read the digits are
  counted. -/
  | tooManyDigits (count : Option Nat)
  | missingField (name : String)
  | notIterable (kind : Json.Kind)
  | unhashable (kind : Json.Kind)
  | noPath
  | noText (need : TextNeed) (kind : Json.Kind)
  deriving DecidableEq

def Fault.message : Fault → String
  | .refusal r => r.message
  | .file error => error.message
  | .nullCharacter => "embedded null byte"
  | .encoding malformed => malformed.message
  | .tooManyDigits (some count) => (Json.ReadError.tooManyDigits count).message
  | .tooManyDigits none =>
    "Exceeds the limit (" ++ toString Json.maxDigits ++
      " digits) for integer string conversion; use sys.set_int_max_str_digits() to increase the limit"
  | .missingField name => Text.quoted name
  | .notIterable kind => Text.quoted kind.name ++ " object is not iterable"
  | .unhashable kind => "unhashable type: " ++ Text.quoted kind.name
  | .noPath => "expected str, bytes or os.PathLike object, not list"
  | .noText need kind => need.message kind

section

variable {τ : Type} [DocumentText τ]

/-- Checks a document against the schema of its kind; of several
violations the foremost is reported. -/
def validate [DecidableEq τ] (kind : DocumentKind) (value : Json τ) : Except Fault Unit :=
  match Violation.foremost? (kind.schema value) with
  | none => .ok ()
  | some violation => .error (.refusal (.violates kind violation))

namespace Json

/-- An unchecked value where a text is needed. -/
def asText (need : TextNeed) : Json τ → Except Fault String
  | .text s => .ok (DocumentText.repaired s)
  | value => .error (.noText need value.kind)

/-- Unchecked values where the items of a joined list are needed, the
first of them at `index`. -/
def asItems (index : Nat) : List (Json τ) → Except Fault (List String)
  | [] => .ok []
  | value :: rest => do
    let text ← value.asText (.item index)
    return text :: (← asItems (index + 1) rest)

/-- The elements of an unchecked value: the characters of a text, the
items of a list, the names of an object. -/
def elements : Json τ → Except Fault (List (Json τ))
  | .text s => .ok ((DocumentText.singles s).map .text)
  | .array items => .ok items
  | .object fields => .ok (fields.map fun field => .text field.1)
  | value => .error (.notIterable value.kind)

end Json

end

namespace Json

/-- The elements of an optional field; one that does not count as given
has none. -/
def optionalElements (name : String) (value : Json) :
    Except Fault (List Json) :=
  match value.field? name with
  | some part => if part.isGiven then part.elements else .ok []
  | none => .ok []

/-- The elements without later repeats, given the scalars before them.
A list or an object equals nothing and cannot be compared. -/
def distinctScalars (seen : List Scalar) :
    List Json → Except Fault (List Json)
  | [] => .ok []
  | value :: rest =>
    match value.scalar? with
    | none => .error (.unhashable value.kind)
    | some scalar =>
      if scalar ∈ seen then distinctScalars seen rest
      else (distinctScalars (scalar :: seen) rest).map (value :: ·)

end Json

end IdeProjects
