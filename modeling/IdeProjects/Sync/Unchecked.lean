import IdeProjects.Sync.Run

/-!
# `IdeProjects.Sync.Unchecked`: runs on settings no schema has seen

A caller may hand over a layout and settings as they are. What is wrong
with them shows where they are first needed and not before: a pattern
only if there is a directory to look through, and the settings of
project files only if there is a unit to write one for.
-/

set_option autoImplicit false

namespace IdeProjects

variable {m : Type → Type} [Monad m] [MonadExceptOf Fault m] [Storage m]

/-- Looks for libraries under an install root; each part of the layout
has to be a text where the scan comes to it. -/
def scanUnchecked (base : Location) (installRoot : Path) (layout : LayoutRecord) :
    m (LibraryScan base) := do
  let managedDir ← MonadExcept.ofExcept (layout.managedDir.asText .pathPart)
  let managed := installRoot.join (Path.ofText managedDir)
  if ← Storage.isDirectory managed then
    let rootPattern ← MonadExcept.ofExcept (layout.rootPattern.asText .pattern)
    let plain ← matchingFiles managed rootPattern
    let moduleDir ← MonadExcept.ofExcept (layout.moduleDir.asText .pathPart)
    let modules := managed.join (Path.ofText moduleDir)
    let hasModules ← Storage.isDirectory modules
    let inner ← if hasModules then do
        let modulePattern ← MonadExcept.ofExcept (layout.modulePattern.asText .pattern)
        matchingFiles modules modulePattern
      else pure []
    let references := referencesTo base managed plain ++ referencesTo base modules inner
    return .found managed modules hasModules
      (references.foldl ReferenceSet.addNew ReferenceSet.empty)
  else return .missing managed

/-- Regenerates the files of units; the layout and the settings of the
request count for nothing here. A scan that comes first shows what is
wrong with the layout. -/
def syncUnchecked (base : Location) (request : SyncRequest) (layout : LayoutRecord)
    (options : OptionRecord) (entries : List Snapshot.Entry) : m SyncRun := do
  let _ ← scanUnchecked base request.installRoot layout
  let request := { request with layout := layout.layout }
  match options.options with
  | .ok options => sync base { request with options } entries
  | .error fault =>
    if (Snapshot.ofEntries entries).units.isEmpty then sync base request entries
    else throw fault

end IdeProjects
