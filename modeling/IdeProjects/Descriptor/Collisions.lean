import IdeProjects.Config.Options
import IdeProjects.Library.Reference

/-!
# `IdeProjects.Descriptor.Collisions`: libraries of one display name

A project file lists references under their display names. Where two
libraries share one, up to case, the setting decides: both stay, or the
later one takes the place of the earlier.
-/

set_option autoImplicit false

namespace IdeProjects

variable {base : Location}

/-- The display name up to case. -/
def LibraryReference.nameKey (r : LibraryReference base) : String :=
  Text.fold r.displayName

/-- Puts a reference in the place of the one with its display name, or
at the end. -/
def putByName (r : LibraryReference base) :
    List (LibraryReference base) → List (LibraryReference base)
  | [] => [r]
  | x :: rest => if x.nameKey = r.nameKey then r :: rest else x :: putByName r rest

/-- The references that a project file lists. -/
def selectReferences (mode : CollisionMode)
    (references : List (LibraryReference base)) : List (LibraryReference base) :=
  match mode with
  | .keep => references
  | .overwrite => references.foldl (fun kept r => putByName r kept) []

/-- The references that a project file lists under a mode given by its
name. -/
def selectReferencesBy (modeName : String)
    (references : List (LibraryReference base)) :
    Except Fault (List (LibraryReference base)) :=
  match CollisionMode.ofName? modeName with
  | some mode => .ok (selectReferences mode references)
  | none => .error (.refusal (.unknownCollisionMode modeName))

end IdeProjects
