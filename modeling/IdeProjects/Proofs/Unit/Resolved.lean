import IdeProjects.Unit.Resolved

/-!
# `IdeProjects.Proofs.Unit.Resolved`: the order of discovery does not matter

Discovered libraries are sorted before they are added, and
`LibraryReference.before` is a linear order: two references that stand
on the same side of each other are one. So a unit is resolved in one way
for all orders in which the storage may list the same libraries
(`resolve_perm`).
-/

set_option autoImplicit false

namespace IdeProjects

namespace LibraryReference

variable {base : Location}

/-- Libraries stand in the order of their keys, and those of one key in the
order of their paths. -/
theorem before_eq_true {r s : LibraryReference base} :
    before r s = true ↔ r.key < s.key ∨ (r.key = s.key ∧ r.path ≤ s.path) := by
  simp [before]

/-- That order is transitive. -/
theorem before_trans {r s q : LibraryReference base} (hrs : before r s = true)
    (hsq : before s q = true) : before r q = true := by
  rw [before_eq_true] at hrs hsq ⊢
  rcases hrs with hlt | ⟨heq, hle⟩
  · rcases hsq with hlt' | ⟨heq', _⟩
    · exact Or.inl (String.lt_trans hlt hlt')
    · left
      rw [← heq']
      exact hlt
  · rcases hsq with hlt' | ⟨heq', hle'⟩
    · left
      rw [heq]
      exact hlt'
    · exact Or.inr ⟨heq.trans heq', String.le_trans hle hle'⟩

/-- Of two libraries one stands first. -/
theorem before_total (r s : LibraryReference base) :
    (before r s || before s r) = true := by
  rw [Bool.or_eq_true, before_eq_true, before_eq_true]
  by_cases hrs : r.key < s.key
  · exact Or.inl (Or.inl hrs)
  · by_cases hsr : s.key < r.key
    · exact Or.inr (Or.inl hsr)
    · have hkey : r.key = s.key :=
        String.le_antisymm (String.not_lt.mp hsr) (String.not_lt.mp hrs)
      rcases String.le_total r.path s.path with hle | hle
      · exact Or.inl (Or.inr ⟨hkey, hle⟩)
      · exact Or.inr (Or.inr ⟨hkey.symm, hle⟩)

/-- Libraries that stand before each other are one, so their order leaves no
choice. -/
theorem before_antisymm {r s : LibraryReference base} (hrs : before r s = true)
    (hsr : before s r = true) : r = s := by
  rw [before_eq_true] at hrs hsr
  rcases hrs with hlt | ⟨heq, hle⟩
  · rcases hsr with hlt' | ⟨heq', _⟩
    · exact absurd hlt' (String.lt_asymm hlt)
    · rw [heq'] at hlt
      exact absurd hlt (String.lt_irrefl _)
  · rcases hsr with hlt' | ⟨_, hle'⟩
    · rw [heq] at hlt'
      exact absurd hlt' (String.lt_irrefl _)
    · obtain ⟨path⟩ := r
      obtain ⟨path'⟩ := s
      exact congrArg mk (String.le_antisymm hle hle')

/-- Sorted references stand in their order. -/
theorem pairwise_mergeSort : ∀ rs : List (LibraryReference base),
    (rs.mergeSort before).Pairwise fun r s => before r s = true :=
  List.pairwise_mergeSort (fun _ _ _ => before_trans) before_total

/-- The sorted list of references is the same for all orders they come
in. -/
theorem mergeSort_eq_of_perm {rs ss : List (LibraryReference base)} (h : rs.Perm ss) :
    rs.mergeSort before = ss.mergeSort before := by
  -- Both are sorted and hold the same references.
  refine List.Perm.eq_of_pairwise (fun _ _ _ _ => before_antisymm)
    (pairwise_mergeSort rs) (pairwise_mergeSort ss) ?_
  exact (List.mergeSort_perm rs before).trans (h.trans (List.mergeSort_perm ss before).symm)

end LibraryReference

/-- A unit is resolved in one way for all orders of the discovered
libraries. -/
theorem resolve_perm {base : Location} (u : CompilationUnit)
    {rs ss : List (LibraryReference base)} (h : rs.Perm ss) : u.resolve rs = u.resolve ss := by
  rw [CompilationUnit.resolve, CompilationUnit.resolve, mergeReferences, mergeReferences,
    LibraryReference.mergeSort_eq_of_perm h]

end IdeProjects
