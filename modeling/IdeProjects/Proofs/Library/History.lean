import IdeProjects.Proofs.Library.ReferenceSet
import Mathlib.Data.Finset.Card

/-!
# `IdeProjects.Proofs.Library.History`: a set after any history

A set is filled by adding single references and whole lists of them, in
any order. What it holds in the end depends on nothing but the references
that were added, all in one list: one change adds its references
(`change_eq`), so a history adds those of its changes, one after the other
(`replay_eq`).

`Shows` says what the set holds then without the set's own operations.
The place of a library comes from the first of its references in the list
and its spelling from the last one. That leaves nothing open
(`Shows.unique`), so the set is the one with these properties
(`replay_shows_iff`).
-/

set_option autoImplicit false

namespace IdeProjects

namespace ReferenceSet

variable {base : Location}

/-! ### Histories -/

/-- A change of a set. -/
inductive Change (base : Location) where
  | add (r : LibraryReference base)
  | addAll (rs : List (LibraryReference base))

/-- The references that a change adds. -/
def Change.added : Change base → List (LibraryReference base)
  | .add r => [r]
  | .addAll rs => rs

/-- The set after a change. -/
def change (set : ReferenceSet base) : Change base → ReferenceSet base
  | .add r => set.add r
  | .addAll rs => set.addAll rs

/-- The set after a history, filled with `first` at the beginning. -/
def replay (first : List (LibraryReference base)) (history : List (Change base)) :
    ReferenceSet base :=
  history.foldl change (ofList first)

/-- Libraries in two lists are added like those of one. -/
theorem addAll_append (set : ReferenceSet base) (rs ss : List (LibraryReference base)) :
    set.addAll (rs ++ ss) = (set.addAll rs).addAll ss :=
  List.foldl_append

/-- A change adds its references. -/
theorem change_eq (set : ReferenceSet base) (c : Change base) :
    set.change c = set.addAll c.added := by
  cases c <;> rfl

/-- Changes add their references one after the other. -/
theorem foldl_change_eq (set : ReferenceSet base) (history : List (Change base)) :
    history.foldl change set = set.addAll (history.flatMap Change.added) := by
  induction history generalizing set with
  | nil => rfl
  | cons c rest ih => rw [List.foldl_cons, ih, change_eq, List.flatMap_cons, addAll_append]

/-- After a history the set is that of all references that were added. -/
theorem replay_eq (first : List (LibraryReference base)) (history : List (Change base)) :
    replay first history = ofList (first ++ history.flatMap Change.added) := by
  rw [replay, foldl_change_eq, ofList, ofList, addAll_append]

/-! ### What a set shows -/

/-- What a set shows of the references that were added to it, in the order
in which they were added. -/
structure Shows (added : List (LibraryReference base)) (set : ReferenceSet base) : Prop where
  /-- No library is shown twice. -/
  once : (set.toList.map (·.key)).Nodup
  /-- The libraries are those of the references. -/
  keys : ∀ k, k ∈ set.toList.map (·.key) ↔ k ∈ added.map (·.key)
  /-- They stand in the order of their first references. -/
  places : (set.toList.map (·.key)).Pairwise fun k l =>
    (added.map (·.key)).idxOf k < (added.map (·.key)).idxOf l
  /-- Each is shown by its last reference. -/
  spellings : ∀ r ∈ set.toList, ∃ before after, added = before ++ r :: after ∧
    ∀ s ∈ after, s.key ≠ r.key
  /-- The size is the number of different libraries. -/
  size : set.size = (added.map (·.key)).toFinset.card
  /-- A reference is in the set if one to its library was added. -/
  members : ∀ r, set.contains r = true ↔ ∃ s ∈ added, s.key = r.key

namespace Shows

variable {added : List (LibraryReference base)} {set set' : ReferenceSet base}

/-- The keys of two sets that show the same are the same, in the same
order. -/
theorem keys_eq (h : Shows added set) (h' : Shows added set') :
    set.toList.map (·.key) = set'.toList.map (·.key) := by
  have hsame : (set.toList.map (·.key)).Perm (set'.toList.map (·.key)) :=
    (List.perm_ext_iff_of_nodup h.once h'.once).mpr fun k => by rw [h.keys, h'.keys]
  -- Both lists ascend in the first positions.
  exact hsame.eq_of_pairwise (fun _ _ _ _ hlt hlt' => absurd hlt' (Nat.lt_asymm hlt))
    h.places h'.places

/-- What a library is shown by is the last of its references. -/
theorem find?_of_mem (h : Shows added set) {r : LibraryReference base} (hr : r ∈ set.toList) :
    added.reverse.find? (·.key = r.key) = some r := by
  obtain ⟨before, after, rfl, hlast⟩ := h.spellings r hr
  exact find?_reverse_of_last (by simp) fun s hs => by simpa using hlast s hs

/-- There is one set that shows what was added. -/
theorem unique (h : Shows added set) (h' : Shows added set') : set = set' := by
  have hlists : set.toList = set'.toList := by
    refine eq_of_map_eq (h.keys_eq h') fun r hr s hs hkey => ?_
    have hfirst := h.find?_of_mem hr
    rw [hkey, h'.find?_of_mem hs] at hfirst
    exact (Option.some.inj hfirst).symm
  cases set
  cases set'
  congr

end Shows

/-- The set of a list shows the list, whatever was added and in which order.
All that it shows is read off its keys and off what is found under each. -/
theorem shows_ofList (added : List (LibraryReference base)) : Shows added (ofList added) := by
  have hkeys : (ofList added).toList.map (·.key) = distinct (added.map (·.key)) :=
    keys_ofList added
  have hmem : ∀ k, k ∈ (ofList added).toList.map (·.key) ↔ k ∈ added.map (·.key) := fun k => by
    rw [hkeys, mem_distinct]
  refine ⟨(ofList added).nodup_keys, hmem, ?_, fun r hr => ?_, ?_, fun r => ?_⟩
  · rw [hkeys]
    exact pairwise_idxOf_distinct _
  · rw [mem_toList_iff, find?_ofList] at hr
    obtain ⟨before, after, hsplit, _, hlast⟩ := exists_last hr
    exact ⟨before, after, hsplit, fun s hs => by simpa using hlast s hs⟩
  · -- Without repeats the keys are as many as their set has elements.
    rw [size, ← List.length_map (·.key), ← List.toFinset_card_of_nodup (ofList added).nodup_keys]
    congr 1
    ext k
    rw [List.mem_toFinset, List.mem_toFinset, hmem]
  · have hthere := hmem r.key
    rw [List.mem_map, List.mem_map] at hthere
    rw [← hthere]
    simp [contains]

/-- Whatever the history was, the set is that of all references that were
added, and it is the one set that shows them. -/
theorem replay_shows_iff (first : List (LibraryReference base)) (history : List (Change base)) :
    replay first history = ofList (first ++ history.flatMap Change.added) ∧
    ∀ set, Shows (first ++ history.flatMap Change.added) set ↔ set = replay first history := by
  have hshows : Shows (first ++ history.flatMap Change.added) (replay first history) := by
    rw [replay_eq]
    exact shows_ofList _
  refine ⟨replay_eq first history, fun set => ⟨fun h => h.unique hshows, ?_⟩⟩
  rintro rfl
  exact hshows

/-- `a.dll` keeps its place when it is added again, and changes its
spelling. -/
example :
    (replay [⟨"/lib/a.dll"⟩, ⟨"/lib/b.dll"⟩] [.add ⟨"/lib/c.dll"⟩, .addAll [⟨"/lib/A.DLL"⟩]] :
      ReferenceSet []).toList = [⟨"/lib/A.DLL"⟩, ⟨"/lib/b.dll"⟩, ⟨"/lib/c.dll"⟩] := by
  decide +kernel

end ReferenceSet

end IdeProjects
