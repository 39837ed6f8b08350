import IdeProjects.Unit.Snapshot
import Mathlib.Data.List.Perm.Basic

/-!
# `IdeProjects.Proofs.Unit.LeftOut`: positions in a list that is sifted

Both sides that units come from are sifted in one way: an element stays, or
it is recorded with its position and a reason. `leftOut` is that record,
and `positionsFrom` the positions of the elements with a property. The
positions in a record ascend, and they are those of the elements that are
left out (`map_index_leftOut`, `mem_leftOut_zero`).

A list that is sifted twice has two kinds of positions: an element may be
left out at its position in the list, or at its rank among those that the
first sieve kept. `ranks_eq_iff` says when the two are the same for all
elements that the second sieve drops: none of them may stand behind an
element that the first one dropped. Together with the elements that stay,
the positions are all positions once (`positions_perm`); with ranks in their
place that holds only if the ranks are the positions (`ranks_perm_iff`).
-/

set_option autoImplicit false

namespace IdeProjects

variable {α β : Type}

/-! ### Positions -/

/-- The positions of the elements with a property, the first element being
at `i`. -/
def positionsFrom (p : α → Bool) (i : Nat) (xs : List α) : List Nat :=
  ((xs.zipIdx i).filter (p ·.1)).map (·.2)

/-- The position of the first entry is listed if the entry passes, and then
those of the others. -/
theorem positionsFrom_cons (p : α → Bool) (i : Nat) (x : α) (rest : List α) :
    positionsFrom p i (x :: rest) =
      if p x then i :: positionsFrom p (i + 1) rest else positionsFrom p (i + 1) rest := by
  rw [positionsFrom, List.zipIdx_cons, List.filter_cons]
  split <;> rfl

/-- No position is listed exactly if no entry passes. -/
theorem positionsFrom_eq_nil_iff {p : α → Bool} {i : Nat} {xs : List α} :
    positionsFrom p i xs = [] ↔ ∀ x ∈ xs, p x = false := by
  induction xs generalizing i with
  | nil => simp [positionsFrom]
  | cons x rest ih =>
      rw [positionsFrom_cons, List.forall_mem_cons]
      by_cases hx : p x = true <;> simp [hx, ih]

/-- A listed position is that of an entry that passes. -/
theorem mem_positionsFrom_zero {p : α → Bool} {j : Nat} {xs : List α} :
    j ∈ positionsFrom p 0 xs ↔ ∃ x, xs[j]? = some x ∧ p x = true := by
  simp [positionsFrom, List.mem_zipIdx_iff_getElem?]

/-- Positions ascend. -/
theorem pairwise_positionsFrom (p : α → Bool) (i : Nat) (xs : List α) :
    (positionsFrom p i xs).Pairwise (· < ·) := by
  have hsub : (positionsFrom p i xs).Sublist (List.range' i xs.length) := by
    rw [← List.zipIdx_map_snd]
    exact List.filter_sublist.map _
  exact (List.pairwise_lt_range' 1 (by omega)).sublist hsub

/-- What stands at the positions of the elements with a property. -/
theorem map_getElem?_positionsFrom (p : α → Bool) (xs : List α) :
    (positionsFrom p 0 xs).map (fun i => xs[i]?) = (xs.filter p).map some := by
  have hpair : ∀ e ∈ (xs.zipIdx 0).filter (p ∘ Prod.fst), xs[e.2]? = some e.1 := fun e he =>
    List.mem_zipIdx_iff_getElem?.mp (List.mem_filter.mp he).1
  calc (positionsFrom p 0 xs).map (fun i => xs[i]?)
      = ((xs.zipIdx 0).filter (p ∘ Prod.fst)).map fun e => xs[e.2]? := List.map_map
    _ = ((xs.zipIdx 0).filter (p ∘ Prod.fst)).map fun e => some e.1 := List.map_congr_left hpair
    _ = (((xs.zipIdx 0).map Prod.fst).filter p).map some := by rw [List.filter_map, List.map_map]; rfl
    _ = (xs.filter p).map some := by rw [List.zipIdx_map_fst]

/-! ### The record of what is left out -/

/-- What a sieve records: the elements that it has a reason against, with
their positions, the first element being at `i`. -/
def leftOut (reason? : α → Option String) (i : Nat) (xs : List α) : List SkippedUnit :=
  (xs.zipIdx i).filterMap fun entry => (reason? entry.1).map fun reason => ⟨entry.2, reason⟩

/-- The first entry is listed with its reason if it has one, and then the
others. -/
theorem leftOut_cons (reason? : α → Option String) (i : Nat) (x : α) (rest : List α) :
    leftOut reason? i (x :: rest) =
      match reason? x with
      | some reason => ⟨i, reason⟩ :: leftOut reason? (i + 1) rest
      | none => leftOut reason? (i + 1) rest := by
  rw [leftOut, List.zipIdx_cons]
  cases h : reason? x <;> simp [leftOut, h]

/-- An entry that is listed has its own position and its own reason. -/
theorem mem_leftOut_zero {reason? : α → Option String} {xs : List α} {entry : SkippedUnit} :
    entry ∈ leftOut reason? 0 xs ↔ ∃ (j : Nat) (x : α), xs[j]? = some x ∧
      reason? x = some entry.reason ∧ entry.index = j := by
  simp only [leftOut, List.mem_filterMap, Prod.exists, List.mem_zipIdx_iff_getElem?,
    Option.map_eq_some_iff]
  constructor
  · rintro ⟨x, j, hx, reason, hreason, rfl⟩
    exact ⟨j, x, hx, hreason, rfl⟩
  · rintro ⟨j, x, hx, hreason, hindex⟩
    exact ⟨x, j, hx, entry.reason, hreason, by rw [← hindex]⟩

/-- Nothing is recorded where there is a reason against no element. -/
theorem leftOut_eq_nil_iff {reason? : α → Option String} {i : Nat} {xs : List α} :
    leftOut reason? i xs = [] ↔ ∀ x ∈ xs, reason? x = none := by
  induction xs generalizing i with
  | nil => simp [leftOut]
  | cons x rest ih =>
      rw [leftOut_cons, List.forall_mem_cons]
      cases reason? x <;> simp [ih]

/-- The positions in a record are those of the elements that are left
out. -/
theorem map_index_leftOut (reason? : α → Option String) (i : Nat) (xs : List α) :
    (leftOut reason? i xs).map (·.index) =
      (positionsFrom (fun x => (reason? x).isSome) i xs).map Nat.cast := by
  induction xs generalizing i with
  | nil => rfl
  | cons x rest ih =>
      rw [leftOut_cons, positionsFrom_cons]
      cases reason? x <;> simp [ih]

/-- A sieve with one reason records the positions of what it leaves out. -/
theorem leftOut_ite (p : α → Bool) (reason : String) (i : Nat) (xs : List α) :
    leftOut (fun x => if p x then some reason else none) i xs =
      (positionsFrom p i xs).map fun (j : Nat) => ⟨j, reason⟩ := by
  induction xs generalizing i with
  | nil => rfl
  | cons x rest ih =>
      rw [leftOut_cons, positionsFrom_cons, ih]
      cases p x <;> simp

/-! ### Two sieves, one after the other -/

section

variable (f : α → Option β) (q : β → Bool)

/-- Behind an element that the first sieve drops, the rank of an element
is less than its position. -/
theorem forall₂_ranks_lt {i j : Nat} (h : j < i) (xs : List α) :
    List.Forall₂ (· < ·) (positionsFrom q j (xs.filterMap f))
      (positionsFrom (fun x => (f x).any q) i xs) := by
  induction xs generalizing i j with
  | nil => exact .nil
  | cons x rest ih =>
      cases hx : f x with
      | none =>
          rw [List.filterMap_cons_none hx, positionsFrom_cons, hx]
          exact ih (by omega)
      | some y =>
          rw [List.filterMap_cons_some hx, positionsFrom_cons, positionsFrom_cons, hx,
            Option.any_some]
          split
          · exact .cons h (ih (by omega))
          · exact ih (by omega)

/-- Only an empty list is less than itself element by element. -/
theorem eq_nil_of_forall₂_lt {ns : List Nat} (h : List.Forall₂ (· < ·) ns ns) : ns = [] := by
  cases h with
  | nil => rfl
  | cons hlt _ => exact absurd hlt (Nat.lt_irrefl _)

/-- The elements that the second sieve drops are recorded at their positions
if none of them stands behind one that the first sieve drops. -/
theorem ranks_eq_iff (i : Nat) (xs : List α) :
    positionsFrom q i (xs.filterMap f) = positionsFrom (fun x => (f x).any q) i xs ↔
      xs.Pairwise fun x y => f x = none → (f y).any q = false := by
  induction xs generalizing i with
  | nil => simp [positionsFrom]
  | cons x rest ih =>
      rw [List.pairwise_cons, ← ih (i + 1)]
      cases hx : f x with
      | none =>
          -- From here on ranks are less than positions, so there must be none of either.
          have hlt := forall₂_ranks_lt f q (Nat.lt_succ_self i) rest
          have hnone : (∀ y ∈ rest, (f y).any q = false) → ∀ j,
              positionsFrom q j (rest.filterMap f) = [] := by
            intro hrest j
            refine positionsFrom_eq_nil_iff.mpr fun y hy => ?_
            obtain ⟨x', hx', hy'⟩ := List.mem_filterMap.mp hy
            simpa [hy'] using hrest x' hx'
          rw [List.filterMap_cons_none hx, positionsFrom_cons, hx, if_neg (by simp)]
          constructor
          · intro heq
            rw [heq] at hlt
            have hnil := eq_nil_of_forall₂_lt hlt
            have hrest := positionsFrom_eq_nil_iff.mp hnil
            exact ⟨fun y hy _ => hrest y hy, by rw [hnone hrest, hnil]⟩
          · rintro ⟨hrest, _⟩
            rw [hnone fun y hy => hrest y hy rfl, eq_comm]
            exact positionsFrom_eq_nil_iff.mpr fun y hy => hrest y hy rfl
      | some y =>
          rw [List.filterMap_cons_some hx, positionsFrom_cons, positionsFrom_cons, hx,
            Option.any_some]
          by_cases hy : q y = true <;> simp [hy]

/-- An element is dropped by the first sieve, dropped by the second one, or
stays: each position is that of one of the three. -/
theorem positions_perm (i : Nat) (xs : List α) :
    (positionsFrom (fun x => (f x).isNone) i xs ++ positionsFrom (fun x => (f x).any q) i xs ++
      positionsFrom (fun x => (f x).any (!q ·)) i xs).Perm (List.range' i xs.length) := by
  induction xs generalizing i with
  | nil => exact .nil
  | cons x rest ih =>
      rw [positionsFrom_cons, positionsFrom_cons, positionsFrom_cons, List.length_cons,
        List.range'_succ]
      have hcons := (ih (i + 1)).cons i
      cases f x with
      | none => simpa using hcons
      | some y =>
          -- The head is that of the second list or of the third one.
          cases hy : q y with
          | false => simpa [hy] using List.perm_middle.trans hcons
          | true =>
              rw [List.append_assoc] at hcons
              simpa [hy] using List.perm_middle.trans hcons

/-- With ranks in the place of positions, each position is still met once
if and only if the ranks are the positions. -/
theorem ranks_perm_iff (xs : List α) :
    (positionsFrom (fun x => (f x).isNone) 0 xs ++ positionsFrom q 0 (xs.filterMap f) ++
      positionsFrom (fun x => (f x).any (!q ·)) 0 xs).Perm (List.range xs.length) ↔
      xs.Pairwise fun x y => f x = none → (f y).any q = false := by
  have hall := positions_perm f q 0 xs
  rw [← List.range_eq_range'] at hall
  rw [← ranks_eq_iff f q 0]
  constructor
  · intro hranks
    have hperm : (positionsFrom q 0 (xs.filterMap f)).Perm
        (positionsFrom (fun x => (f x).any q) 0 xs) := by
      have hboth := hranks.trans hall.symm
      rwa [List.perm_append_right_iff, List.perm_append_left_iff] at hboth
    -- Both lists ascend.
    exact hperm.eq_of_pairwise (fun _ _ _ _ hlt hlt' => absurd hlt' (Nat.lt_asymm hlt))
      (pairwise_positionsFrom _ _ _) (pairwise_positionsFrom _ _ _)
  · intro heq
    rw [heq]
    exact hall

end

end IdeProjects
