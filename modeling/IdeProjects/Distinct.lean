/-!
# `IdeProjects.Distinct`: the first occurrence of each value

Lists of symbols, project references and unit names keep the first
occurrence of each value and lose the later ones; the order stays.
-/

set_option autoImplicit false

namespace IdeProjects

/-- The list without later repeats. -/
def distinct {α : Type} [DecidableEq α] : List α → List α
  | [] => []
  | x :: rest => x :: (distinct rest).filter (· ≠ x)

section
variable {α : Type} [DecidableEq α]

/-- No value is lost. -/
@[simp] theorem mem_distinct {x : α} {xs : List α} :
    x ∈ distinct xs ↔ x ∈ xs := by
  induction xs with
  | nil => simp [distinct]
  | cons y rest ih => by_cases h : x = y <;> simp [distinct, ih, h]

/-- No value is there twice. -/
theorem nodup_distinct (xs : List α) : (distinct xs).Nodup := by
  induction xs with
  | nil => simp [distinct]
  | cons y rest ih =>
    simp only [distinct, List.nodup_cons]
    exact ⟨by simp, ih.filter _⟩

/-- A list without repeats is its own list of first occurrences. -/
theorem distinct_eq_self {xs : List α} (h : xs.Nodup) : distinct xs = xs := by
  induction xs with
  | nil => rfl
  | cons y rest ih =>
    obtain ⟨hy, hrest⟩ := List.nodup_cons.1 h
    rw [distinct, ih hrest, List.filter_eq_self.2]
    intro x hx
    simp only [ne_eq, decide_eq_true_eq]
    rintro rfl
    exact hy hx

end

end IdeProjects
