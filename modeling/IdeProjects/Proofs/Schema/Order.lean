import IdeProjects.Proofs.Schema.Rules

/-!
# `IdeProjects.Proofs.Schema.Order`: the two readings of what a document violates

A document is checked in two ways, and both read one list, the violations
in the order of the schema. `validate` reports the foremost of them, and
`DocumentKind.errors` has a line for each, by place.

`foremost?` goes through the list with the best violation so far. No step
takes one that is further from the root, so none of the list is nearer to
it than what is left at the end (`foremost?_eq_some`). `inOrder` sorts by the
steps as texts (`stepsLe_iff`) and is stable, so `IsByPlace` says all there
is to say about the lines: nothing is lost, the places ascend, and at one
place the order of the schema stays (`isByPlace_inOrder`).

`checks_agree` joins the two: a document is refused just when there are
lines about it, and the refusal repeats one of them whose place has the
fewest steps of all.
-/

set_option autoImplicit false

namespace IdeProjects

namespace Violation

/-! ### The foremost violation -/

/-- A violation that outranks another is at least as near to the root. -/
theorem length_le_of_outranks {v w : Violation} (h : v.outranks w = true) :
    v.place.length ≤ w.place.length := by
  unfold outranks at h
  split at h
  · rename_i hgt
    exact Nat.le_of_lt (Nat.compare_eq_gt.mp hgt)
  · cases h
  · rename_i heq
    exact Nat.le_of_eq (Nat.compare_eq_eq.mp heq).symm

/-- A violation that does not outrank another is no nearer to the root. -/
theorem length_le_of_not_outranks {v w : Violation} (h : v.outranks w = false) :
    w.place.length ≤ v.place.length := by
  unfold outranks at h
  split at h
  · cases h
  · rename_i hlt
    exact Nat.le_of_lt (Nat.compare_eq_lt.mp hlt)
  · rename_i heq
    exact Nat.le_of_eq (Nat.compare_eq_eq.mp heq)

/-- What is left of a list, starting with `best`: one of all these
violations, and none of them is nearer to the root. -/
theorem foldl_outranks (vs : List Violation) (best : Violation) :
    let last := vs.foldl (fun best w => if w.outranks best then w else best) best
    last ∈ best :: vs ∧ ∀ w ∈ best :: vs, last.place.length ≤ w.place.length := by
  induction vs generalizing best with
  | nil => simp
  | cons v rest ih =>
      rw [List.foldl_cons]
      -- The better of `best` and `v` is as near to the root as either of them.
      by_cases hv : v.outranks best = true
      · rw [if_pos hv]
        obtain ⟨hmem, hmin⟩ := ih v
        refine ⟨List.mem_cons_of_mem _ hmem, List.forall_mem_cons.mpr ⟨?_, hmin⟩⟩
        exact Nat.le_trans (hmin v List.mem_cons_self) (length_le_of_outranks hv)
      · rw [if_neg hv]
        obtain ⟨hmem, hmin⟩ := ih best
        obtain ⟨hbest, hrest⟩ := List.forall_mem_cons.mp hmin
        refine ⟨?_, List.forall_mem_cons.mpr ⟨hbest, List.forall_mem_cons.mpr ⟨?_, hrest⟩⟩⟩
        · rcases List.mem_cons.mp hmem with hlast | hlast
          · exact List.mem_cons.mpr (Or.inl hlast)
          · exact List.mem_cons_of_mem _ (List.mem_cons_of_mem _ hlast)
        · exact Nat.le_trans hbest (length_le_of_not_outranks (Bool.eq_false_iff.mpr hv))

/-- The foremost of some violations is one of them, and none of them is
nearer to the root. -/
theorem foremost?_eq_some {vs : List Violation} {v : Violation} (h : foremost? vs = some v) :
    v ∈ vs ∧ ∀ w ∈ vs, v.place.length ≤ w.place.length := by
  cases vs with
  | nil => cases h
  | cons best rest =>
      obtain rfl := Option.some.inj h
      exact foldl_outranks rest best

/-! ### The order of places -/

/-- Steps are compared as words are in a dictionary: by the first part in
which they differ, and a list comes before those that go on from it. -/
theorem stepsLe_iff {as bs : List String} :
    stepsLe as bs = true ↔ as = bs ∨ List.Lex (· < ·) as bs := by
  induction as generalizing bs with
  | nil => cases bs <;> simp [stepsLe]
  | cons a as ih =>
      cases bs with
      | nil => simp [stepsLe]
      | cons b bs =>
          rw [stepsLe, List.cons_lex_cons_iff]
          by_cases hab : a = b
          · subst hab
            rw [if_pos rfl, ih, List.cons.injEq]
            simp only [String.lt_irrefl, true_and, false_or]
          · simp [hab]

/-- Violations are compared by their steps. -/
def placeLe (v w : Violation) : Bool := stepsLe v.steps w.steps

/-- The order of places is transitive. -/
theorem placeLe_trans (u v w : Violation) (huv : placeLe u v = true) (hvw : placeLe v w = true) :
    placeLe u w = true := by
  refine stepsLe_iff.mpr ?_
  rcases stepsLe_iff.mp huv with heq | huv
  · exact heq ▸ stepsLe_iff.mp hvw
  · rcases stepsLe_iff.mp hvw with heq | hvw
    · exact Or.inr (heq ▸ huv)
    · exact Or.inr (List.lex_trans String.lt_trans huv hvw)

/-- Of two places one comes first. -/
theorem placeLe_total (v w : Violation) : (placeLe v w || placeLe w v) = true := by
  rw [Bool.or_eq_true, placeLe, placeLe, stepsLe_iff, stepsLe_iff]
  by_cases hvw : List.Lex (· < ·) v.steps w.steps
  · exact Or.inl (Or.inr hvw)
  · by_cases hwv : List.Lex (· < ·) w.steps v.steps
    · exact Or.inr (Or.inr hwv)
    · refine Or.inl (Or.inl (List.lex_trichotomous (fun a b hab hba => ?_) hwv hvw))
      exact String.le_antisymm (String.not_lt.mp hba) (String.not_lt.mp hab)

/-- How violations are listed by their places as texts. -/
structure IsByPlace (vs listed : List Violation) : Prop where
  /-- The same violations, each as often. -/
  perm : listed.Perm vs
  /-- The places ascend, compared part by part. -/
  ascending : listed.Pairwise fun v w => v.steps = w.steps ∨ List.Lex (· < ·) v.steps w.steps
  /-- Those of one place stand in their old order. -/
  stable : ∀ steps, listed.filter (·.steps = steps) = vs.filter (·.steps = steps)

/-- The listing is in the order of places, with all violations and those at
one place in their own order. -/
theorem isByPlace_inOrder (vs : List Violation) : IsByPlace vs (inOrder vs) where
  perm := List.mergeSort_perm _ _
  ascending := (List.pairwise_mergeSort placeLe_trans placeLe_total vs).imp stepsLe_iff.mp
  stable steps := by
    -- The violations of one place are in order already, so sorting keeps them as a
    -- sublist, and there are no others of that place.
    have hplace : (vs.filter (·.steps = steps)).Pairwise fun v w => placeLe v w = true := by
      refine List.pairwise_iff_forall_sublist.mpr fun {v w} hvw => ?_
      have hsteps : ∀ u ∈ [v, w], u.steps = steps := fun u hu => by
        simpa using (List.mem_filter.mp (hvw.subset hu)).2
      exact stepsLe_iff.mpr (Or.inl ((hsteps v (by simp)).trans (hsteps w (by simp)).symm))
    have hsub : (vs.filter (·.steps = steps)).Sublist (inOrder vs) :=
      List.sublist_mergeSort placeLe_trans placeLe_total hplace List.filter_sublist
    have hfilter := hsub.filter (·.steps = steps)
    rw [List.filter_filter] at hfilter
    simp only [Bool.and_self] at hfilter
    have hlength := ((List.mergeSort_perm vs placeLe).filter (·.steps = steps)).length_eq
    exact (hfilter.eq_of_length hlength.symm).symm

end Violation

/-! ### The two checks -/

/-- The two checks of a document read one list. A document is refused just
when there are lines about what it violates; the message of the refusal is
the kind of the document and one of the lines, about a place with the fewest
steps of all; and the lines are those of the violations by place, those of
one place in the order of the schema. -/
theorem DocumentKind.checks_agree (kind : DocumentKind) (value : Json) :
    ((∃ fault, validate kind value = .error fault) ↔ kind.errors value ≠ []) ∧
    (∀ fault, validate kind value = .error fault → ∃ v ∈ kind.schema value,
      fault = .refusal (.violates kind v) ∧
      fault.message = kind.name ++ " failed JSON schema validation at " ++ v.describe ∧
      v.describe ∈ kind.errors value ∧
      ∀ w ∈ kind.schema value, v.place.length ≤ w.place.length) ∧
    ∃ listed, Violation.IsByPlace (kind.schema value) listed ∧
      kind.errors value = listed.map Violation.describe := by
  refine ⟨?_, fun fault hfault => ?_, _, Violation.isByPlace_inOrder _, rfl⟩
  · rw [Ne, errors_eq_nil_iff, ← validate_eq_ok_iff]
    cases validate kind value <;> simp
  · rw [validate] at hfault
    split at hfault
    · cases hfault
    · rename_i v hforemost
      cases hfault
      obtain ⟨hmem, hmin⟩ := Violation.foremost?_eq_some hforemost
      have hlisted : v ∈ Violation.inOrder (kind.schema value) :=
        (Violation.isByPlace_inOrder _).perm.mem_iff.mpr hmem
      exact ⟨v, hmem, rfl, rfl, List.mem_map_of_mem hlisted, hmin⟩

end IdeProjects
