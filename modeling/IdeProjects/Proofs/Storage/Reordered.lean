import IdeProjects.Proofs.Storage.Places
import Mathlib.Data.List.Perm.Basic

/-!
# `IdeProjects.Proofs.Storage.Reordered`: one tree, listed in two orders

Two trees are `Reordered` if the same stands at every place and each
directory lists the same names, in whatever order. A path leads to the same
place in both (`Reordered.locate_eq`), so nothing but a listing can tell
them apart. Every name can come first: `listedFirst` is the tree that lists
the name of one place before all others (`names_listedFirst`).
-/

set_option autoImplicit false

namespace IdeProjects

namespace FileTree

/-- The trees hold the same directories and files. Only the order in which
a directory lists its entries may differ. -/
structure Reordered (t t' : FileTree) : Prop where
  base_eq : t'.base = t.base
  node?_eq : ∀ place, t'.node? place = t.node? place
  names_perm : ∀ place, (t'.names place).Perm (t.names place)

namespace Reordered

variable {t t' : FileTree}

/-- A walk does not list anything. -/
theorem follow_eq (h : Reordered t t') (parts : List String) :
    ∀ place, t'.follow place parts = t.follow place parts := by
  induction parts with
  | nil =>
      intro place
      rw [follow, follow, h.node?_eq]
  | cons part rest ih =>
      intro place
      rw [follow, follow, h.node?_eq, h.node?_eq, ih, ih]

/-- A path leads to the same place in a tree with its entries in another
order. -/
theorem locate_eq (h : Reordered t t') (p : Path) : t'.locate p = t.locate p := by
  rw [locate, locate, find, find, h.base_eq, h.follow_eq]

/-- There it finds the same kind. -/
theorem kind?_eq (h : Reordered t t') (p : Path) : t'.kind? p = t.kind? p := by
  rw [kind?, kind?, h.locate_eq]

end Reordered

/-! ### Any name can come first -/

/-- The tree that lists what stands at a place before everything else. -/
def listedFirst (t : FileTree) (place : Location) : FileTree :=
  { t with nodes := t.nodes.filter (·.1 = place) ++ t.nodes.filter (¬ ·.1 = place) }

/-- A look-up among the entries of some places. -/
theorem lookup_filter_place (p : Location → Bool) (place : Location)
    (nodes : List (Location × Node)) :
    (nodes.filter (p ·.1)).lookup place = if p place then nodes.lookup place else none := by
  induction nodes with
  | nil => simp
  | cons entry rest ih =>
      obtain ⟨other, x⟩ := entry
      rw [List.filter_cons, List.lookup_cons]
      by_cases hother : place = other
      · subst hother
        cases hp : p place with
        | true => simp
        | false => simpa [hp] using ih
      · rw [beq_eq_false_iff_ne.mpr hother]
        split
        · rw [List.lookup_cons, beq_eq_false_iff_ne.mpr hother, ih]
        · exact ih

/-- Listing one entry first only changes the order. -/
theorem reordered_listedFirst (t : FileTree) (place : Location) :
    Reordered t (t.listedFirst place) where
  base_eq := rfl
  node?_eq q := by
    by_cases hroot : q = []
    · rw [node?, node?, if_pos hroot, if_pos hroot]
    · rw [node?, node?, if_neg hroot, if_neg hroot, listedFirst, List.lookup_append]
      -- The entries of one place are all in one of the two halves.
      rw [lookup_filter_place (fun q => decide (q = place)),
        lookup_filter_place (fun q => decide (¬ q = place))]
      by_cases hq : q = place <;> simp [hq]
  names_perm q := by
    have hperm : (t.listedFirst place).nodes.Perm t.nodes := by
      simpa [listedFirst] using List.filter_append_perm (fun entry => entry.1 = place) t.nodes
    exact hperm.filterMap _

/-- A name that a directory has can be the first one it lists. The node is
moved to the front of the list of all nodes, where nothing but its own place
is of that name in that directory. -/
theorem names_listedFirst {t : FileTree} {d : Location} {n : String} (h : n ∈ t.names d) :
    ∃ rest, (t.listedFirst (d ++ [n])).names d = n :: rest := by
  obtain ⟨⟨other, x⟩, hentry, hname⟩ := List.mem_filterMap.mp h
  have hother : other = d ++ [n] := by
    dsimp only at hname
    split at hname
    · rename_i hdirectory
      rw [← hdirectory, List.dropLast_append_getLast? n hname]
    · cases hname
  subst hother
  rw [names, listedFirst, List.filterMap_append]
  cases hfirst : t.nodes.filter (·.1 = d ++ [n]) with
  | nil =>
      have hmem : (d ++ [n], x) ∈ t.nodes.filter (·.1 = d ++ [n]) :=
        List.mem_filter.mpr ⟨hentry, by simp⟩
      rw [hfirst] at hmem
      cases hmem
  | cons entry rest =>
      obtain ⟨place, y⟩ := entry
      have hmem : (place, y) ∈ t.nodes.filter (·.1 = d ++ [n]) := by simp [hfirst]
      obtain rfl : place = d ++ [n] := by simpa using (List.mem_filter.mp hmem).2
      rw [List.filterMap_cons_some (b := n) (by simp)]
      exact ⟨_, rfl⟩

end FileTree

end IdeProjects
