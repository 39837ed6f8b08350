import IdeProjects.Distinct
import Mathlib.Data.List.Basic

/-!
# `IdeProjects.Proofs.Lists`: last occurrences, first occurrences

Two rules decide what a repeated name or key comes to: the last one
counts, and it stands where the first one stood. `exists_last` takes a
list apart at the last element with a property, which is how the search
from the end is reasoned about; `distinct` keeps the first occurrences in
their order, so it is a sublist and follows the first positions.
-/

set_option autoImplicit false

namespace IdeProjects

/-- Of the elements with a property there is a last one. -/
theorem exists_last {α : Type} {p : α → Bool} {xs : List α} {x : α}
    (h : xs.reverse.find? p = some x) :
    ∃ before after, xs = before ++ x :: after ∧ p x = true ∧ ∀ y ∈ after, p y = false := by
  obtain ⟨hx, later, earlier, hsplit, hnone⟩ := List.find?_eq_some_iff_append.mp h
  refine ⟨earlier.reverse, later.reverse, ?_, hx, ?_⟩
  · rw [← List.reverse_reverse xs, hsplit]
    simp
  · intro y hy
    simpa using hnone y (by simpa using hy)

/-- The last element with a property is what the search from the end
finds. -/
theorem find?_reverse_of_last {α : Type} {p : α → Bool} {before after : List α} {x : α}
    (hx : p x = true) (hnone : ∀ y ∈ after, p y = false) :
    (before ++ x :: after).reverse.find? p = some x := by
  have hafter : after.reverse.find? p = none := by
    rw [List.find?_eq_none]
    intro y hy
    simp [hnone y (List.mem_reverse.mp hy)]
  rw [List.reverse_append, List.reverse_cons, List.append_assoc, List.find?_append, hafter]
  simp [hx]

/-- Where one element has a property there is a last one that has it. -/
theorem exists_last_of_mem {α : Type} {p : α → Bool} {xs : List α} {x : α} (hx : x ∈ xs)
    (hp : p x = true) :
    ∃ before last after, xs = before ++ last :: after ∧ p last = true ∧
      ∀ y ∈ after, p y = false := by
  have hsome : (xs.reverse.find? p).isSome := by
    rw [List.find?_isSome]
    exact ⟨x, List.mem_reverse.mpr hx, hp⟩
  obtain ⟨last, hlast⟩ := Option.isSome_iff_exists.mp hsome
  obtain ⟨before, after, hsplit⟩ := exists_last hlast
  exact ⟨before, last, after, hsplit⟩

section

variable {α β : Type} [DecidableEq α]

/-- First occurrences stand in the order of the list. -/
theorem distinct_sublist (xs : List α) : (distinct xs).Sublist xs := by
  induction xs with
  | nil => exact .slnil
  | cons x rest ih => exact (List.filter_sublist.trans ih).cons_cons x

/-- First occurrences stand in the order of their first positions. Behind the
first value each position is that in the rest, moved by one. -/
theorem pairwise_idxOf_distinct (xs : List α) :
    (distinct xs).Pairwise fun x y => xs.idxOf x < xs.idxOf y := by
  induction xs with
  | nil => exact .nil
  | cons x rest ih =>
      have hlater : ∀ y ∈ (distinct rest).filter (· ≠ x),
          (x :: rest).idxOf y = rest.idxOf y + 1 := by
        intro y hy
        have hne : y ≠ x := by simpa using (List.mem_filter.mp hy).2
        exact List.idxOf_cons_ne rest hne.symm
      rw [distinct, List.pairwise_cons]
      constructor
      · intro y hy
        rw [List.idxOf_cons_self, hlater y hy]
        exact Nat.succ_pos _
      · refine (ih.filter _).imp_of_mem fun hy hz hlt => ?_
        rw [hlater _ hy, hlater _ hz]
        exact Nat.succ_lt_succ hlt

/-- Values that are ordered, with repeats, are strictly ordered without
them. -/
theorem pairwise_distinct {r s : α → α → Prop} (hstrict : ∀ a b, r a b → a ≠ b → s a b)
    {xs : List α} (h : xs.Pairwise r) : (distinct xs).Pairwise s := by
  have hsub : (distinct xs).Pairwise r := h.sublist (distinct_sublist xs)
  exact hsub.imp₂ hstrict (nodup_distinct xs)

end

/-- What stands in joined lists is a separator or stands in one of them. -/
theorem mem_of_mem_intercalate {α : Type} {x sep : α} {xss : List (List α)}
    (h : x ∈ [sep].intercalate xss) : x = sep ∨ ∃ xs ∈ xss, x ∈ xs := by
  induction xss with
  | nil => simp [List.intercalate] at h
  | cons xs rest ih =>
      cases rest with
      | nil => exact Or.inr ⟨xs, by simp, by simpa using h⟩
      | cons next others =>
          rw [List.intercalate_cons_cons, List.mem_append, List.mem_append,
            List.mem_singleton] at h
          rcases h with (hxs | rfl) | hrest
          · exact Or.inr ⟨xs, by simp, hxs⟩
          · exact Or.inl rfl
          · rcases ih hrest with hsep | ⟨ys, hys, hx⟩
            · exact Or.inl hsep
            · exact Or.inr ⟨ys, List.mem_cons_of_mem _ hys, hx⟩

/-- Before what is joined last a separator ends each list. -/
theorem intercalate_append {α : Type} (sep : List α) (xss : List (List α)) {yss : List (List α)}
    (h : yss ≠ []) :
    sep.intercalate (xss ++ yss) = xss.flatMap (· ++ sep) ++ sep.intercalate yss := by
  induction xss with
  | nil => simp
  | cons xs rest ih =>
      rw [List.cons_append, List.intercalate_cons_of_ne_nil (by simp [h]), ih]
      simp

/-- Where the elements with a value have one key, and no two elements have,
the value is there once at most. -/
theorem count_map_le_one {α β γ : Type} [BEq β] [LawfulBEq β] {value : α → β} {key : α → γ}
    {xs : List α} (honce : (xs.map key).Nodup) {b : β}
    (h : ∀ x ∈ xs, ∀ y ∈ xs, value x = b → value y = b → key x = key y) :
    (xs.map value).count b ≤ 1 := by
  induction xs with
  | nil => exact Nat.zero_le _
  | cons x rest ih =>
      rw [List.map_cons, List.nodup_cons] at honce
      by_cases hx : value x = b
      · -- Another one would repeat the key of `x`.
        have hnone : b ∉ rest.map value := by
          intro hmem
          obtain ⟨y, hy, hvalue⟩ := List.mem_map.mp hmem
          have hkey := h x List.mem_cons_self y (List.mem_cons_of_mem _ hy) hx hvalue
          exact honce.1 (hkey ▸ List.mem_map_of_mem hy)
        have hzero := List.count_eq_zero_of_not_mem hnone
        rw [List.map_cons, hx, List.count_cons_self]
        omega
      · rw [List.map_cons, List.count_cons_of_ne hx]
        exact ih honce.2 fun y hy z hz =>
          h y (List.mem_cons_of_mem _ hy) z (List.mem_cons_of_mem _ hz)

/-- A list is known by its keys where a key is that of one element. -/
theorem eq_of_map_eq {α β : Type} {f : α → β} {xs ys : List α} (hmap : xs.map f = ys.map f)
    (hinj : ∀ x ∈ xs, ∀ y ∈ ys, f x = f y → x = y) : xs = ys := by
  induction xs generalizing ys with
  | nil => simpa using hmap.symm
  | cons x rest ih =>
      cases ys with
      | nil => simp at hmap
      | cons y rest' =>
          simp only [List.map_cons, List.cons.injEq] at hmap
          rw [hinj x (by simp) y (by simp) hmap.1, ih hmap.2 fun a ha b hb =>
            hinj a (by simp [ha]) b (by simp [hb])]

end IdeProjects
