import IdeProjects.Library.Reference

/-!
# `IdeProjects.Library.ReferenceSet`: references in order, one per library

A set holds one reference for each library, in the order in which the
libraries were first added. Adding a library again changes its spelling
and keeps its place.
-/

set_option autoImplicit false

namespace IdeProjects

/-- Puts a reference in the place of the one with its key, or at the
end. -/
def putReference {base : Location} (r : LibraryReference base) :
    List (LibraryReference base) → List (LibraryReference base)
  | [] => [r]
  | x :: rest => if x.key = r.key then r :: rest else x :: putReference r rest

/-- A library that is put among others keeps their keys in order: its own is
there already, or comes last. -/
theorem keys_putReference {base : Location} (r : LibraryReference base)
    (xs : List (LibraryReference base)) :
    (putReference r xs).map (·.key) =
      if r.key ∈ xs.map (·.key) then xs.map (·.key)
      else xs.map (·.key) ++ [r.key] := by
  induction xs with
  | nil => simp [putReference]
  | cons x rest ih =>
    by_cases h : x.key = r.key
    · simp [putReference, h]
    · have h' : r.key ≠ x.key := fun e => h e.symm
      by_cases hr : r.key ∈ rest.map (·.key) <;>
        simp_all [putReference]

/-- References in order, no two to one library. -/
structure ReferenceSet (base : Location) where
  toList : List (LibraryReference base)
  nodup_keys : (toList.map (·.key)).Nodup

namespace ReferenceSet

variable {base : Location}

/-- The set without references. -/
def empty : ReferenceSet base := ⟨[], by simp⟩

/-- Whether the library of a reference is in the set. -/
def contains (set : ReferenceSet base) (r : LibraryReference base) : Bool :=
  set.toList.any (·.key == r.key)

/-- Adds a reference; the last spelling of a library wins. -/
def add (set : ReferenceSet base) (r : LibraryReference base) :
    ReferenceSet base :=
  ⟨putReference r set.toList, by
    rw [keys_putReference]
    split
    · exact set.nodup_keys
    · rename_i h
      rw [List.nodup_append]
      refine ⟨set.nodup_keys, by simp, ?_⟩
      rintro a ha b hb rfl
      simp only [List.mem_singleton] at hb
      exact h (hb ▸ ha)⟩

/-- Adds references in order. -/
def addAll (set : ReferenceSet base) (rs : List (LibraryReference base)) :
    ReferenceSet base :=
  rs.foldl add set

/-- Adds a reference if its library is not in the set; the first spelling
of a library stays. -/
def addNew (set : ReferenceSet base) (r : LibraryReference base) :
    ReferenceSet base :=
  if set.contains r then set else set.add r

/-- The set of the references of a list. -/
def ofList (rs : List (LibraryReference base)) : ReferenceSet base :=
  empty.addAll rs

/-- The number of libraries. -/
def size (set : ReferenceSet base) : Nat := set.toList.length

end ReferenceSet

end IdeProjects
