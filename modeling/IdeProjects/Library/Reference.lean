import IdeProjects.Path.Basic
import IdeProjects.Path.FileName
import IdeProjects.Text.Case.Folding

/-!
# `IdeProjects.Library.Reference`: references to compiled libraries

A reference keeps the path its producer wrote. Which library it names
is decided by its `key`: the absolute path without `.`, `..` and
repeated slashes, with every backslash read as a slash, and folded, so
that two spellings of one file have one key. A relative path is read
from the working directory `base`, which is part of the type: keys of
two working directories are never compared.
-/

set_option autoImplicit false

namespace IdeProjects

/-- A reference to a library, read in the working directory `base`. -/
structure LibraryReference (base : Location) where
  path : String
  deriving DecidableEq, Repr

namespace LibraryReference

variable {base : Location}

/-- The absolute path without parts that carry no meaning. Two slashes
at the start stay two. -/
def normalized (r : LibraryReference base) : String :=
  let p := Path.ofText r.path
  let root := if p.root = .doubleSlash then Root.doubleSlash else .slash
  root.text ++ "/".intercalate (p.locate base)

/-- A backslash read as a slash. -/
def slashChar (c : Char) : Char := if c = '\\' then '/' else c

/-- What decides which library is meant. -/
def key (r : LibraryReference base) : String :=
  String.ofList (Text.foldChars (r.normalized.toList.map slashChar))

/-- The name shown for the library: its file name without the
extension. -/
def displayName (r : LibraryReference base) : String :=
  String.ofList (FileName.stem (FileName.lastPart r.path.toList))

/-- Two references to one library. -/
def same (r s : LibraryReference base) : Bool := r.key == s.key

/-- The order in which discovered libraries are added: by key, and under
one key by spelling. -/
def before (r s : LibraryReference base) : Bool :=
  r.key < s.key || (r.key == s.key && r.path ≤ s.path)

end LibraryReference

end IdeProjects
