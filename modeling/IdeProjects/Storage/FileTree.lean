import IdeProjects.Storage.Basic

/-!
# `IdeProjects.Storage.FileTree`: files in memory

A file tree is a list of places with what stands at each, and the
working directory that relative paths start from. The root is always
there. Directories list their entries in the order of the tree.

A path is followed step by step: every step but the last has to lead to
a directory, and `..` goes back from where the path has led. `find`
tells the three outcomes apart: something stands at the end, nothing
does but the directory for it is there, or the way is blocked.

Three things that a host's files have are left out. There are no links:
two places never share a file, and a path leads along its own parts.
Nothing but directories and regular files stands at a place. And a
request is either carried out whole or turned down with the tree as it
was; there is no space to run out of and no permission to be missing.
That a run leaves its files as told (`SyncRun`), that a second run finds
them so, and that a file is told as written exactly if its bytes are
there then, is proved of trees like these.
-/

set_option autoImplicit false

namespace IdeProjects

/-- What stands at a place. -/
inductive Node where
  | directory
  | file (bytes : List UInt8)
  deriving DecidableEq, Repr

/-- A file tree and a working directory in it. -/
structure FileTree where
  base : Location
  nodes : List (Location × Node)
  deriving DecidableEq, Repr

/-- Where a path leads. -/
inductive Found where
  | node (place : Location) (node : Node)
  | vacant (place : Location)
  deriving DecidableEq, Repr

namespace FileTree

/-- What stands at a place. -/
def node? (t : FileTree) (place : Location) : Option Node :=
  if place = [] then some .directory else t.nodes.lookup place

/-- Puts a node in the place of the one that is there, or after all
others. -/
def putNode (place : Location) (node : Node) :
    List (Location × Node) → List (Location × Node)
  | [] => [(place, node)]
  | (other, old) :: rest =>
    if other = place then (place, node) :: rest
    else (other, old) :: putNode place node rest

/-- The tree with a node at a place. -/
def put (t : FileTree) (place : Location) (node : Node) : FileTree :=
  { t with nodes := putNode place node t.nodes }

/-- The names directly below a place. -/
def names (t : FileTree) (place : Location) : List String :=
  t.nodes.filterMap fun (other, _) =>
    if other.dropLast = place then other.getLast? else none

/-- The most bytes a name can have. -/
def maxName : Nat := 255

/-- The most bytes a whole path can have. -/
def maxPath : Nat := 4095

/-- Follows the parts of a path from a place. -/
def follow (t : FileTree) (place : Location) :
    List String → Except FileIssue Found
  | [] => match t.node? place with
    | some node => .ok (.node place node)
    | none => .error .notFound
  | part :: rest =>
    match t.node? place with
    | none => .error .notFound
    | some (.file _) => .error .notDirectory
    | some .directory =>
      if part = ".." then t.follow place.dropLast rest
      else if part.utf8ByteSize > maxName then .error .nameTooLong
      else if rest.isEmpty && (t.node? (place ++ [part])).isNone then
        .ok (.vacant (place ++ [part]))
      else t.follow (place ++ [part]) rest

/-- Follows a path. -/
def find (t : FileTree) (p : Path) : Except FileIssue Found :=
  if p.text.utf8ByteSize > maxPath then .error .nameTooLong
  else t.follow (if p.isAbsolute then [] else t.base) p.parts

/-- Follows a path for a request, which a path with a null character
does not allow. -/
def locate (t : FileTree) (p : Path) : Except Fault Found :=
  if p.hasNull then .error .nullCharacter
  else match t.find p with
    | .ok found => .ok found
    | .error issue => .error (.file ⟨issue, p.text⟩)

/-- The kind of what stands at a path. -/
def kind? (t : FileTree) (p : Path) : Except Fault (Option FileKind) :=
  match t.locate p with
  | .ok (.node _ .directory) => .ok (some .directory)
  | .ok (.node _ (.file _)) => .ok (some .file)
  | .ok (.vacant _) => .ok none
  | .error (.file ⟨.nameTooLong, text⟩) => .error (.file ⟨.nameTooLong, text⟩)
  | .error _ => .ok none

/-- The bytes of the file at a path. -/
def read (t : FileTree) (p : Path) : Except Fault (List UInt8) :=
  match t.locate p with
  | .ok (.node _ (.file bytes)) => .ok bytes
  | .ok (.node _ .directory) => .error (.file ⟨.isDirectory, p.text⟩)
  | .ok (.vacant _) => .error (.file ⟨.notFound, p.text⟩)
  | .error fault => .error fault

/-- The names in the directory at a path. -/
def entries (t : FileTree) (p : Path) : Except Fault (List String) :=
  match t.locate p with
  | .ok (.node place .directory) => .ok (t.names place)
  | .ok (.node _ (.file _)) => .error (.file ⟨.notDirectory, p.text⟩)
  | .ok (.vacant _) => .error (.file ⟨.notFound, p.text⟩)
  | .error fault => .error fault

/-- The tree with a directory at a path where nothing stands. -/
def makeDirectory (t : FileTree) (p : Path) : Except Fault FileTree :=
  match t.locate p with
  | .ok (.vacant place) => .ok (t.put place .directory)
  | .ok (.node _ _) => .error (.file ⟨.exists, p.text⟩)
  | .error fault => .error fault

/-- The tree with a file at a path where no directory stands. -/
def write (t : FileTree) (p : Path) (bytes : List UInt8) :
    Except Fault FileTree :=
  match t.locate p with
  | .ok (.vacant place) => .ok (t.put place (.file bytes))
  | .ok (.node place (.file _)) => .ok (t.put place (.file bytes))
  | .ok (.node _ .directory) => .error (.file ⟨.isDirectory, p.text⟩)
  | .error fault => .error fault

/-! ### Whole subtrees -/

/-- The tree without what stands at a place and below it. -/
def prune (t : FileTree) (place : Location) : FileTree :=
  { t with nodes := t.nodes.filter fun (other, _) => !place.isPrefixOf other }

/-- The tree without what stands at a path and below it. -/
def remove (t : FileTree) (p : Path) : Except Fault FileTree :=
  match t.locate p with
  | .ok (.node place _) => .ok (t.prune place)
  | .ok (.vacant _) => .error (.file ⟨.notFound, p.text⟩)
  | .error fault => .error fault

/-- All that lies below a path, written from there; a directory has a
slash at its end. -/
def listing (t : FileTree) (p : Path) : List String :=
  match t.locate p with
  | .ok (.node top .directory) =>
    let below := t.nodes.filterMap fun (place, node) =>
      if top.isPrefixOf place && place != top then
        let text := "/".intercalate (place.drop top.length)
        some (if node = .directory then text ++ "/" else text)
      else none
    below.mergeSort fun a b => a ≤ b
  | _ => []

end FileTree

/-- A computation on a file tree. The tree it has changed stays when it
ends early. -/
abbrev Session := EStateM Fault FileTree

namespace Session

/-- A computation that looks at the tree. -/
def look {α : Type} (f : FileTree → Except Fault α) : Session α := fun t =>
  match f t with
  | .ok a => .ok a t
  | .error fault => .error fault t

/-- A computation that is told why the tree turned it down. -/
def attempt {α : Type} (c : Session α) : Session (Except String α) := fun t =>
  match c t with
  | .ok a t' => .ok (.ok a) t'
  | .error (.file error) t' => .ok (.error error.message) t'
  | .error fault t' => .error fault t'

/-- A computation that changes the tree. -/
def change (f : FileTree → Except Fault FileTree) : Session Unit := fun t =>
  match f t with
  | .ok t' => .ok () t'
  | .error fault => .error fault t

end Session

instance : Storage Session where
  kind? p := Session.look (·.kind? p)
  read p := Session.look (·.read p)
  entries p := Session.look (·.entries p)
  makeDirectory p := Session.change (·.makeDirectory p)
  write p bytes := Session.change (·.write p bytes)
  attempt := Session.attempt

end IdeProjects
