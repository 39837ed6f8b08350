import IdeProjects.Library.ReferenceSet
import IdeProjects.Proofs.Keyed
import IdeProjects.Proofs.Lists
import Mathlib.Data.List.Nodup

/-!
# `IdeProjects.Proofs.Library.ReferenceSet`: a set of references as keys and a map

A set is known by two views: the keys in their order (`keys`) and the
reference under a key (`find?`). Its list is one with an element for each
key, so the two views change independently, one reference after the other:
the order of the keys is that of their first references, and what stands
under a key is the last one. That is said for a whole list by `keys_addAll`
and `find?_addAll`. Where only new references are added, what stands under a
key is the first one (`mem_foldl_addNew_iff`).
-/

set_option autoImplicit false

namespace IdeProjects

namespace ReferenceSet

variable {base : Location}

/-- A set is its list of references. -/
theorem toList_injective {set set' : ReferenceSet base} (h : set.toList = set'.toList) :
    set = set' := by
  cases set
  cases set'
  congr

/-- The keys of a set in their order. -/
def keys (set : ReferenceSet base) : List String := set.toList.map (·.key)

/-- The reference under a key. -/
def find? (set : ReferenceSet base) (k : String) : Option (LibraryReference base) :=
  set.toList.find? (·.key = k)

/-- The empty set has no keys. -/
@[simp] theorem keys_empty : (empty : ReferenceSet base).keys = [] := rfl

/-- Nothing is found in the empty set. -/
@[simp] theorem find?_empty (k : String) : (empty : ReferenceSet base).find? k = none := rfl

/-! ### One reference -/

/-- References are put in their places by their keys. -/
theorem putReference_eq (r : LibraryReference base) (xs : List (LibraryReference base)) :
    putReference r xs = putKeyed (·.key) r xs := by
  induction xs with
  | nil => rfl
  | cons x rest ih => rw [putReference, putKeyed, ih]

/-- Adding a library puts it in the slot of its key, or behind all others. -/
theorem toList_add (set : ReferenceSet base) (r : LibraryReference base) :
    (set.add r).toList = putKeyed (·.key) r set.toList :=
  putReference_eq r set.toList

/-- A key stays where it is when its library is replaced, and a new one comes
last. -/
theorem keys_add (set : ReferenceSet base) (r : LibraryReference base) :
    (set.add r).keys = if r.key ∈ set.keys then set.keys else set.keys ++ [r.key] :=
  keys_putReference r set.toList

/-- A library that was added is found under its key, and nothing else has
changed. -/
theorem find?_add (set : ReferenceSet base) (r : LibraryReference base) (k : String) :
    (set.add r).find? k = if r.key = k then some r else set.find? k := by
  rw [find?, toList_add]
  exact find?_putKeyed _ r set.toList k

/-- A reference takes the place of one to the same library. -/
theorem add_add {r s : LibraryReference base} (h : r.key = s.key) (set : ReferenceSet base) :
    (set.add r).add s = set.add s := by
  have hlist : ((set.add r).add s).toList = (set.add s).toList := by
    rw [toList_add, toList_add, toList_add, putKeyed_putKeyed _ h]
  exact toList_injective hlist

/-! ### References in order -/

/-- Libraries are added one after the other. -/
theorem toList_addAll (set : ReferenceSet base) (rs : List (LibraryReference base)) :
    (set.addAll rs).toList = rs.foldl (fun kept r => putKeyed (·.key) r kept) set.toList := by
  induction rs generalizing set with
  | nil => rfl
  | cons r rest ih =>
      have hstep : (set.addAll (r :: rest)).toList = ((set.add r).addAll rest).toList := rfl
      rw [hstep, ih, List.foldl_cons, toList_add]

/-- Keys keep their places; new ones follow in the order of their first
references. -/
theorem keys_addAll (set : ReferenceSet base) (rs : List (LibraryReference base)) :
    (set.addAll rs).keys =
      set.keys ++ (distinct (rs.map (·.key))).filter (· ∉ set.keys) := by
  rw [keys, toList_addAll]
  exact map_foldl_putKeyed _ rs set.toList

/-- Under a key stands the last reference with the key. -/
theorem find?_addAll (set : ReferenceSet base) (rs : List (LibraryReference base)) (k : String) :
    (set.addAll rs).find? k = (rs.reverse.find? (·.key = k)).or (set.find? k) := by
  rw [find?, toList_addAll]
  exact find?_foldl_putKeyed _ rs set.toList k

/-- The keys of a set are those of its libraries, each once and in the order
of their first. -/
theorem keys_ofList (rs : List (LibraryReference base)) :
    (ofList rs).keys = distinct (rs.map (·.key)) := by
  simp [ofList, keys_addAll]

/-- Under each key the last of its libraries is found. -/
theorem find?_ofList (rs : List (LibraryReference base)) (k : String) :
    (ofList rs).find? k = rs.reverse.find? (·.key = k) := by
  simp [ofList, find?_addAll]

/-! ### References that are not in the set -/

/-- A library that is only added if new leaves what was found before. -/
theorem find?_addNew (set : ReferenceSet base) (r : LibraryReference base) (k : String) :
    (set.addNew r).find? k = (set.find? k).or (if r.key = k then some r else none) := by
  have hcontains : set.contains r = (set.find? r.key).isSome := by
    rw [Bool.eq_iff_iff, find?, List.find?_isSome]
    simp [contains]
  rw [addNew, hcontains]
  by_cases hr : r.key = k
  · subst hr
    cases hfind : set.find? r.key <;> simp [find?_add, hfind]
  · split <;> simp [find?_add, hr]

/-- Under a key stands what stood there, or else the first new reference. -/
theorem find?_foldl_addNew (set : ReferenceSet base) (rs : List (LibraryReference base))
    (k : String) :
    (rs.foldl addNew set).find? k = (set.find? k).or (rs.find? (·.key = k)) := by
  induction rs generalizing set with
  | nil => simp
  | cons r rest ih =>
      rw [List.foldl_cons, ih, find?_addNew, Option.or_assoc, List.find?_cons]
      by_cases hr : r.key = k <;> simp [hr]

/-! ### Members -/

/-- Where the references of a key are one, the first of the key is it. -/
theorem find?_key_eq_some_iff {rs : List (LibraryReference base)} {r : LibraryReference base}
    (h : r ∈ rs → ∀ s ∈ rs, s.key = r.key → s = r) :
    rs.find? (·.key = r.key) = some r ↔ r ∈ rs :=
  find?_eq_some_iff_mem _ h

/-- The references of a set are the ones under their keys. -/
theorem mem_toList_iff {set : ReferenceSet base} {r : LibraryReference base} :
    r ∈ set.toList ↔ set.find? r.key = some r :=
  (find?_key_eq_some_iff fun hr _ hs hkey =>
    List.inj_on_of_nodup_map set.nodup_keys hs hr hkey).symm

/-- Under the keys of a set, and no others, there are references. -/
theorem mem_keys_iff {set : ReferenceSet base} {k : String} :
    k ∈ set.keys ↔ (set.find? k).isSome := by
  rw [find?, List.find?_isSome]
  simp [keys]

/-- A set contains a reference if there is one to the same library. -/
theorem contains_iff_mem_keys {set : ReferenceSet base} {r : LibraryReference base} :
    set.contains r = true ↔ r.key ∈ set.keys := by
  simp [contains, keys]

/-- There are as many references as keys. -/
theorem length_keys (set : ReferenceSet base) : set.keys.length = set.size :=
  List.length_map _

/-- Added only if new or not, libraries bring the same keys. -/
theorem mem_keys_foldl_addNew_iff {rs : List (LibraryReference base)} {k : String} :
    k ∈ (rs.foldl addNew empty).keys ↔ k ∈ rs.map (·.key) := by
  rw [mem_keys_iff, find?_foldl_addNew, find?_empty, Option.none_or, List.find?_isSome]
  simp

/-- The set holds the first reference of each key. -/
theorem mem_foldl_addNew_iff {rs : List (LibraryReference base)} {r : LibraryReference base} :
    r ∈ (rs.foldl addNew empty).toList ↔ rs.find? (·.key = r.key) = some r := by
  rw [mem_toList_iff, find?_foldl_addNew, find?_empty, Option.none_or]

end ReferenceSet

end IdeProjects
