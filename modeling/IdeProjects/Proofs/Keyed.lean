import IdeProjects.Distinct
import Mathlib.Data.List.Basic

/-!
# `IdeProjects.Proofs.Keyed`: lists with one element for each key

A set of references has one reference for each library, and a project file
may list one for each display name. Both lists are made in one way, with
different keys: an element takes the place of the one with its key, or comes
last if there is none (`putKeyed`).

Such a list is known by two views, the keys in their order and the element
under a key. Putting an element changes the first view only by a new key at
the end (`map_putKeyed`) and the second one only under the element's own key
(`find?_putKeyed`). So after many elements the keys stand in the order of
their first elements (`map_foldl_putKeyed`), and under each is the last one
(`find?_foldl_putKeyed`).
-/

set_option autoImplicit false

namespace IdeProjects

variable {α κ : Type} [DecidableEq κ] (key : α → κ)

/-- Puts an element in the place of the one with its key, or at the end. -/
def putKeyed (x : α) : List α → List α
  | [] => [x]
  | y :: rest => if key y = key x then x :: rest else y :: putKeyed x rest

/-! ### One element -/

/-- A value that is put leaves the keys as they are, or adds its own behind
them. -/
theorem map_putKeyed (x : α) (ys : List α) :
    (putKeyed key x ys).map key =
      if key x ∈ ys.map key then ys.map key else ys.map key ++ [key x] := by
  induction ys with
  | nil => simp [putKeyed]
  | cons y rest ih =>
      by_cases hy : key y = key x
      · simp [putKeyed, hy]
      · have hne : key x ≠ key y := fun h => hy h.symm
        rw [putKeyed, if_neg hy, List.map_cons, ih]
        by_cases hx : key x ∈ rest.map key <;> simp [hx, hne]

/-- A value that was put is found under its key, and under the other keys what
was there. -/
theorem find?_putKeyed (x : α) (ys : List α) (k : κ) :
    (putKeyed key x ys).find? (key · = k) =
      if key x = k then some x else ys.find? (key · = k) := by
  induction ys with
  | nil => by_cases hx : key x = k <;> simp [putKeyed, hx]
  | cons y rest ih =>
      by_cases hy : key y = key x
      · -- `y` gives its place to `x`, and is under `k` only where `x` is.
        by_cases hx : key x = k <;> simp [putKeyed, hy, hx]
      · by_cases hk : key y = k
        · have hx : key x ≠ k := fun h => hy (hk.trans h.symm)
          rw [putKeyed, if_neg hy]
          simp [hk, hx]
        · rw [putKeyed, if_neg hy, List.find?_cons_of_neg (by simpa using hk), ih]
          simp [hk]

/-- Of two elements with one key the second takes the place of the first. -/
theorem putKeyed_putKeyed {x y : α} (h : key x = key y) (zs : List α) :
    putKeyed key y (putKeyed key x zs) = putKeyed key y zs := by
  induction zs with
  | nil => simp [putKeyed, h]
  | cons z rest ih =>
      by_cases hz : key z = key x
      · simp [putKeyed, hz, h]
      · have hz' : key z ≠ key y := h ▸ hz
        simp [putKeyed, hz, hz', ih]

/-! ### Elements in order -/

/-- Keys keep their places; new ones follow in the order of their first
elements. -/
theorem map_foldl_putKeyed (xs kept : List α) :
    (xs.foldl (fun kept x => putKeyed key x kept) kept).map key =
      kept.map key ++ (distinct (xs.map key)).filter (· ∉ kept.map key) := by
  induction xs generalizing kept with
  | nil => simp [distinct]
  | cons x rest ih =>
      rw [List.foldl_cons, ih, map_putKeyed]
      by_cases hx : key x ∈ kept.map key
      · -- The key has its place: it is dropped from the new ones anyhow.
        have hdrop : ∀ k, k ∉ kept.map key → k ≠ key x := by
          rintro k hk rfl
          exact hk hx
        simp only [hx, if_true, List.map_cons, distinct, List.filter_cons, not_true_eq_false,
          decide_false, Bool.false_eq_true, if_false, List.filter_filter]
        congr 1
        refine List.filter_congr fun k _ => ?_
        by_cases hk : k ∈ kept.map key <;> simp [hk, hdrop k]
      · simp only [hx, if_false, List.map_cons, distinct, List.filter_cons, not_false_eq_true,
          decide_true, if_true, List.filter_filter, List.append_assoc, List.singleton_append]
        congr 2
        refine List.filter_congr fun k _ => ?_
        simp

/-- Under a key stands the last element with the key. -/
theorem find?_foldl_putKeyed (xs kept : List α) (k : κ) :
    (xs.foldl (fun kept x => putKeyed key x kept) kept).find? (key · = k) =
      (xs.reverse.find? (key · = k)).or (kept.find? (key · = k)) := by
  induction xs generalizing kept with
  | nil => simp
  | cons x rest ih =>
      rw [List.foldl_cons, ih, find?_putKeyed, List.reverse_cons, List.find?_append, Option.or_assoc]
      by_cases hx : key x = k <;> simp [hx]

/-- Where a key is that of one element, the first of the key is it. -/
theorem find?_eq_some_iff_mem {xs : List α} {x : α}
    (h : x ∈ xs → ∀ y ∈ xs, key y = key x → y = x) :
    xs.find? (key · = key x) = some x ↔ x ∈ xs := by
  refine ⟨List.mem_of_find?_eq_some, fun hx => ?_⟩
  have hsome : (xs.find? (key · = key x)).isSome := by
    rw [List.find?_isSome]
    exact ⟨x, hx, by simp⟩
  obtain ⟨y, hy⟩ := Option.isSome_iff_exists.mp hsome
  rw [hy, h hx y (List.mem_of_find?_eq_some hy) (by simpa using List.find?_some hy)]

end IdeProjects
