import IdeProjects.Config.Layout
import IdeProjects.Glob
import IdeProjects.Library.ReferenceSet
import IdeProjects.Storage.Basic

/-!
# `IdeProjects.Library.Scan`: the libraries of an installation

An installation keeps its libraries in two directories, one inside the
other; the layout names both and has a pattern for the files of each.
Only regular files count, and only those directly in a directory. Two
spellings of one library are one discovery, under the spelling that the
storage lists first, so what is found depends on the order of the
storage only where two names differ in nothing but case.

A scan remembers where it looked, and its log is read off it afterwards.
-/

set_option autoImplicit false

namespace IdeProjects

/-- What a scan has found. Without the directory of managed libraries
there is nothing; without the directory of modules inside it there are
only the libraries beside that. -/
inductive LibraryScan (base : Location) where
  | missing (managed : Path)
  | found (managed modules : Path) (hasModules : Bool)
      (libraries : ReferenceSet base)

namespace LibraryScan

variable {base : Location}

/-- The libraries found, no two the same. -/
def libraries : LibraryScan base → List (LibraryReference base)
  | .missing _ => []
  | .found _ _ _ libraries => libraries.toList

/-- The directory that should have been there. -/
def missingRoot? : LibraryScan base → Option Path
  | .missing managed => some managed
  | .found .. => none

/-- What is said about a directory that should have been there. -/
def missingText (managed : Path) : String :=
  "Could not find managed library directory at: " ++ managed.text

/-- What the user has to know of the scan. -/
def warnings (scan : LibraryScan base) : List String :=
  scan.missingRoot?.toList.map missingText

/-- What the scan tells about itself. -/
def log : LibraryScan base → List LogEntry
  | .missing managed => [⟨.error, missingText managed⟩]
  | .found managed modules hasModules libraries =>
    (if hasModules then []
      else [⟨.debug, "Module library directory not present: " ++ modules.text⟩]) ++
    [⟨.debug, "Discovered " ++ toString libraries.size ++
      " libraries under " ++ managed.text⟩]

end LibraryScan

section

variable {m : Type → Type} [Monad m] [Storage m]

/-- The regular files among the entries of a directory. -/
def regularFiles (directory : Path) : List String → m (List String)
  | [] => pure []
  | name :: rest => do
    let isFile ← Storage.isFile (directory.child name)
    let others ← regularFiles directory rest
    return if isFile then name :: others else others

/-- The names of the regular files in a directory that a pattern
describes, in the order of the storage. -/
def matchingFiles (directory : Path) (pattern : String) : m (List String) := do
  let files ← regularFiles directory (← Storage.entries directory)
  return files.filter (globMatches pattern)

/-- The directory of managed libraries under an install root. -/
def ScanLayout.managed (layout : ScanLayout) (installRoot : Path) : Path :=
  installRoot.join (Path.ofText layout.managedDir)

/-- The directory of modules inside the one of managed libraries. -/
def ScanLayout.modules (layout : ScanLayout) (installRoot : Path) : Path :=
  (layout.managed installRoot).join (Path.ofText layout.moduleDir)

/-- References to files of a directory. -/
def referencesTo (base : Location) (directory : Path) (names : List String) :
    List (LibraryReference base) :=
  names.map fun name => ⟨(directory.child name).text⟩

/-- Looks for the libraries of the installation under an install root. -/
def scanLibraries (base : Location) (installRoot : Path) (layout : ScanLayout) :
    m (LibraryScan base) := do
  let managed := layout.managed installRoot
  let modules := layout.modules installRoot
  if ← Storage.isDirectory managed then
    let plain ← matchingFiles managed layout.rootPattern
    let hasModules ← Storage.isDirectory modules
    let inner ← if hasModules then matchingFiles modules layout.modulePattern
      else pure []
    let references := referencesTo base managed plain ++ referencesTo base modules inner
    return .found managed modules hasModules
      (references.foldl ReferenceSet.addNew ReferenceSet.empty)
  else return .missing managed

end

end IdeProjects
