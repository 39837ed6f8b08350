import IdeProjects.Proofs.Library.ReferenceSet
import IdeProjects.Proofs.Unit.Resolved

/-!
# `IdeProjects.Proofs.Unit.Merge`: which references a unit ends up with

A unit's own references and the discovered ones are merged by adding them
all to one set, the discovered ones sorted. `IsMerge` says what comes out
without the set and without the sort: whose keys stand where, and which
spelling stands under each. It leaves nothing open (`IsMerge.unique`), so
the merge is the one list with these properties (`resolve_isMerge_iff`).

The two views of a set carry the proof. The keys of a sorted list are
ascending once the repeats are gone, which gives the order; and the last
reference of a sorted list under a key has the greatest spelling, which
gives the path.

Nothing is left to settle after that. A merge is its own merge with the
same discovered references (`IsMerge.again`), so a unit that is given what
it was resolved to is resolved to the same, spelling by spelling
(`resolve_idempotent`).
-/

set_option autoImplicit false

namespace IdeProjects

variable {base : Location}

/-! ### What a merge is -/

/-- The references `merged` settle the references `own` of a unit and the
`discovered` ones. -/
structure IsMerge (own discovered merged : List (LibraryReference base)) : Prop where
  /-- The unit's own keys by their first occurrences, then the keys that are
  only found, ascending. -/
  order : ∃ found : List String,
    merged.map (·.key) = distinct (own.map (·.key)) ++ found ∧
    found.Pairwise (· < ·) ∧
    ∀ k, k ∈ found ↔ k ∈ discovered.map (·.key) ∧ k ∉ own.map (·.key)
  /-- Every key stands once. -/
  once : (merged.map (·.key)).Nodup
  /-- No key is lost and none is invented. -/
  keys : ∀ k, k ∈ merged.map (·.key) ↔ k ∈ own.map (·.key) ∨ k ∈ discovered.map (·.key)
  /-- A key that is found has the greatest spelling it is found under. -/
  foundPath : ∀ r ∈ merged, r.key ∈ discovered.map (·.key) →
    r ∈ discovered ∧ ∀ s ∈ discovered, s.key = r.key → s.path ≤ r.path
  /-- Any other key has the last spelling of the unit's own. -/
  ownPath : ∀ r ∈ merged, r.key ∉ discovered.map (·.key) →
    own.reverse.find? (·.key = r.key) = some r

namespace IsMerge

variable {own discovered merged other : List (LibraryReference base)}

/-- The references of two merges under one key are one. -/
theorem eq_of_key (h : IsMerge own discovered merged) (h' : IsMerge own discovered other)
    {r s : LibraryReference base} (hr : r ∈ merged) (hs : s ∈ other) (hkey : r.key = s.key) :
    r = s := by
  by_cases hfound : r.key ∈ discovered.map (·.key)
  · -- Both have the greatest spelling, so each is at most the other.
    obtain ⟨hrfound, hrgreatest⟩ := h.foundPath r hr hfound
    obtain ⟨hsfound, hsgreatest⟩ := h'.foundPath s hs (hkey ▸ hfound)
    obtain ⟨rpath⟩ := r
    obtain ⟨spath⟩ := s
    exact congrArg LibraryReference.mk
      (String.le_antisymm (hsgreatest _ hrfound hkey) (hrgreatest _ hsfound hkey.symm))
  · -- Both are the last one of the unit's own.
    have hrlast := h.ownPath r hr hfound
    have hslast := h'.ownPath s hs (hkey ▸ hfound)
    rw [hkey, hslast] at hrlast
    exact (Option.some.inj hrlast).symm

/-- The keys of two merges are the same in the same order. -/
theorem keys_eq (h : IsMerge own discovered merged) (h' : IsMerge own discovered other) :
    merged.map (·.key) = other.map (·.key) := by
  obtain ⟨found, hkeys, hsorted, hmem⟩ := h.order
  obtain ⟨found', hkeys', hsorted', hmem'⟩ := h'.order
  have hsame : found.Perm found' := by
    refine (List.perm_ext_iff_of_nodup (hsorted.imp String.ne_of_lt)
      (hsorted'.imp String.ne_of_lt)).mpr fun k => ?_
    rw [hmem, hmem']
  have heq : found = found' :=
    hsame.eq_of_pairwise (fun _ _ _ _ hlt hlt' => absurd hlt' (String.lt_asymm hlt))
      hsorted hsorted'
  rw [hkeys, hkeys', heq]

/-- There is one merge. -/
theorem unique (h : IsMerge own discovered merged) (h' : IsMerge own discovered other) :
    merged = other :=
  eq_of_map_eq (keys_eq h h') fun _ hr _ hs hkey => eq_of_key h h' hr hs hkey

/-- What a merge ends in is settled: merged with the same libraries once
more it stays as it is. -/
theorem again (h : IsMerge own discovered merged) : IsMerge merged discovered merged := by
  -- Every key has its place already, so none is only found.
  have hkeys : ∀ k, k ∈ merged.map (·.key) ↔
      k ∈ merged.map (·.key) ∨ k ∈ discovered.map (·.key) := by
    intro k
    rw [h.keys]
    tauto
  refine ⟨⟨[], ?_, .nil, fun k => ?_⟩, h.once, hkeys, h.foundPath, fun r hr _ => ?_⟩
  · rw [distinct_eq_self h.once, List.append_nil]
  · simp only [List.not_mem_nil, false_iff, not_and, not_not]
    exact fun hfound => (hkeys k).mpr (Or.inr hfound)
  · -- The last one of its key is the only one.
    refine (ReferenceSet.find?_key_eq_some_iff fun hr s hs hkey => ?_).mpr (List.mem_reverse.mpr hr)
    exact List.inj_on_of_nodup_map h.once (List.mem_reverse.mp hs) (List.mem_reverse.mp hr) hkey

end IsMerge

/-! ### Sorted references -/

/-- Of sorted references the keys are ascending. -/
theorem pairwise_key_of_sorted {rs : List (LibraryReference base)}
    (h : rs.Pairwise fun r s => LibraryReference.before r s = true) :
    (rs.map (·.key)).Pairwise (· ≤ ·) := by
  refine List.pairwise_map.mpr (h.imp fun {r s} hrs => ?_)
  rcases LibraryReference.before_eq_true.mp hrs with hlt | ⟨heq, _⟩
  · exact String.not_lt.mp (String.lt_asymm hlt)
  · exact Eq.subst (motive := fun k => r.key ≤ k) heq (String.le_refl _)

/-- The last of sorted references under a key has the greatest spelling. -/
theorem path_le_of_last {rs : List (LibraryReference base)}
    (h : rs.Pairwise fun r s => LibraryReference.before r s = true)
    {last : LibraryReference base} (hlast : rs.reverse.find? (·.key = last.key) = some last)
    {s : LibraryReference base} (hs : s ∈ rs) (hkey : s.key = last.key) :
    s.path ≤ last.path := by
  obtain ⟨earlier, later, rfl, _, hnone⟩ := exists_last hlast
  rcases List.mem_append.mp hs with hearlier | hrest
  · have hbefore := (List.pairwise_append.mp h).2.2 s hearlier last (by simp)
    rcases LibraryReference.before_eq_true.mp hbefore with hlt | ⟨_, hle⟩
    · rw [hkey] at hlt
      exact absurd hlt (String.lt_irrefl _)
    · exact hle
  · rcases List.mem_cons.mp hrest with rfl | hlater
    · exact String.le_refl _
    · have hother := hnone s hlater
      simp [hkey] at hother

/-- There is a last reference under a key if there is one at all. -/
theorem isSome_find?_reverse_iff {rs : List (LibraryReference base)} {k : String} :
    (rs.reverse.find? (·.key = k)).isSome ↔ k ∈ rs.map (·.key) := by
  rw [List.find?_isSome]
  simp

/-! ### The merge -/

/-- Own references, then sorted ones, added to one set are a merge. The keys
come in the order in which they are added first, and the member under a key is
the one that is added last. -/
theorem isMerge_addAll (own : List (LibraryReference base))
    {discovered sorted : List (LibraryReference base)} (hperm : sorted.Perm discovered)
    (hsorted : sorted.Pairwise fun r s => LibraryReference.before r s = true) :
    IsMerge own discovered ((ReferenceSet.ofList own).addAll sorted).toList := by
  set merged := (ReferenceSet.ofList own).addAll sorted with hmerged
  have hkeys : merged.keys = distinct (own.map (·.key)) ++
      (distinct (sorted.map (·.key))).filter (· ∉ distinct (own.map (·.key))) := by
    rw [hmerged, ReferenceSet.keys_addAll, ReferenceSet.keys_ofList]
  have hmem : ∀ k, k ∈ sorted.map (·.key) ↔ k ∈ discovered.map (·.key) :=
    fun k => (hperm.map _).mem_iff
  -- A member is the last sorted reference under its key, or else the last own one.
  have hat : ∀ r ∈ merged.toList, (sorted.reverse.find? (·.key = r.key)).or
      (own.reverse.find? (·.key = r.key)) = some r := by
    intro r hr
    rw [← ReferenceSet.find?_ofList own, ← ReferenceSet.find?_addAll]
    exact ReferenceSet.mem_toList_iff.mp hr
  refine ⟨⟨_, hkeys, ?_, ?_⟩, merged.nodup_keys, ?_, ?_, ?_⟩
  · -- The keys of a sorted list ascend, strictly once the repeats are gone.
    have hstrict : ∀ k l : String, k ≤ l → k ≠ l → k < l := fun k l hle hne =>
      String.not_le.mp fun hge => hne (String.le_antisymm hle hge)
    exact (pairwise_distinct hstrict (pairwise_key_of_sorted hsorted)).filter _
  · intro k
    simp only [List.mem_filter, mem_distinct, decide_eq_true_eq, hmem]
  · intro k
    change k ∈ merged.keys ↔ _
    rw [hkeys]
    simp only [List.mem_append, List.mem_filter, mem_distinct, decide_eq_true_eq, hmem]
    tauto
  · intro r hr hfound
    have hsome : (sorted.reverse.find? (·.key = r.key)).isSome :=
      isSome_find?_reverse_iff.mpr ((hmem _).mpr hfound)
    have hlast : sorted.reverse.find? (·.key = r.key) = some r := by
      rw [← hat r hr, Option.or_of_isSome hsome]
    refine ⟨hperm.mem_iff.mp (List.mem_reverse.mp (List.mem_of_find?_eq_some hlast)), ?_⟩
    intro s hs hkey
    exact path_le_of_last hsorted hlast (hperm.mem_iff.mpr hs) hkey
  · intro r hr hown
    have hnone : sorted.reverse.find? (·.key = r.key) = none := by
      rw [← Option.not_isSome_iff_eq_none, isSome_find?_reverse_iff, hmem]
      exact hown
    rw [← hat r hr, hnone, Option.none_or]

/-- The references of a resolved unit are a merge of its own with the
discovered ones. -/
theorem isMerge_resolve (u : CompilationUnit) (discovered : List (LibraryReference base)) :
    IsMerge (u.references.map LibraryReference.mk) discovered
      (u.resolve discovered).references := by
  rw [CompilationUnit.resolve, mergeReferences]
  exact isMerge_addAll _ (List.mergeSort_perm _ _) (LibraryReference.pairwise_mergeSort _)

/-- The references of a resolved unit are the merge of its own with the
discovered ones, and they do not depend on the order of discovery. -/
theorem resolve_isMerge_iff (u : CompilationUnit) (discovered : List (LibraryReference base)) :
    (∀ merged, IsMerge (u.references.map LibraryReference.mk) discovered merged ↔
      merged = (u.resolve discovered).references) ∧
    ∀ other, other.Perm discovered → u.resolve other = u.resolve discovered := by
  have hmerge := isMerge_resolve u discovered
  refine ⟨fun merged => ⟨fun h => h.unique hmerge, ?_⟩, fun other hperm => resolve_perm u hperm⟩
  rintro rfl
  exact hmerge

/-- `A.dll` is the unit's own and found under two spellings, `lib/C.dll` is
only found, and the unit spells its first library in two ways. -/
theorem resolve_isMerge_iff_spellings :
    let u : CompilationUnit :=
      { name := "App", references := ["lib/B.dll", "a.dll", "Lib/b.dll"] }
    let discovered : List (LibraryReference ["w"]) := [⟨"lib/C.dll"⟩, ⟨"A.dll"⟩, ⟨"./a.DLL"⟩]
    (u.resolve discovered).references = [⟨"Lib/b.dll"⟩, ⟨"A.dll"⟩, ⟨"lib/C.dll"⟩] ∧
      u.resolve discovered.reverse = u.resolve discovered := by
  intro u discovered
  have hown : (u.references.map fun path => (⟨path⟩ : LibraryReference ["w"])).map (·.key) =
      ["/w/lib/b.dll", "/w/a.dll", "/w/lib/b.dll"] := by decide +kernel
  have hfound : discovered.map (·.key) = ["/w/lib/c.dll", "/w/a.dll", "/w/a.dll"] := by
    decide +kernel
  -- Two of the own references have one key, and so have two of the
  -- others.
  have hmerge : IsMerge (u.references.map LibraryReference.mk) discovered
      [⟨"Lib/b.dll"⟩, ⟨"A.dll"⟩, ⟨"lib/C.dll"⟩] := by
    refine ⟨⟨["/w/lib/c.dll"], by decide +kernel, by decide +kernel, fun k => ?_⟩,
      by decide +kernel, fun k => ?_, by decide +kernel, by decide +kernel⟩
    · rw [hfound, hown]
      simp only [List.mem_cons, List.not_mem_nil, or_false]
      constructor
      · rintro rfl
        exact ⟨Or.inl rfl, by decide⟩
      · rintro ⟨hk, hnot⟩
        tauto
    · rw [hfound, hown]
      have hmerged : [⟨"Lib/b.dll"⟩, ⟨"A.dll"⟩, ⟨"lib/C.dll"⟩].map
          (fun r : LibraryReference ["w"] => r.key) =
        ["/w/lib/b.dll", "/w/a.dll", "/w/lib/c.dll"] := by decide +kernel
      rw [hmerged]
      simp only [List.mem_cons, List.not_mem_nil, or_false]
      tauto
  exact ⟨(((resolve_isMerge_iff u discovered).1 _).mp hmerge).symm,
    (resolve_isMerge_iff u discovered).2 _ discovered.reverse_perm⟩

/-! ### Once more -/

/-- A unit that is given the references of its first resolution, as they are
spelled there, keeps them all. -/
theorem references_resolve_again (u : CompilationUnit) (discovered : List (LibraryReference base))
    {v : CompilationUnit} (hv : v.references = (u.resolve discovered).references.map (·.path)) :
    (v.resolve discovered).references = (u.resolve discovered).references := by
  have hown : v.references.map LibraryReference.mk = (u.resolve discovered).references := by
    rw [hv, List.map_map]
    exact List.map_id _
  have hagain := isMerge_resolve v discovered
  rw [hown] at hagain
  exact hagain.unique (isMerge_resolve u discovered).again

/-- A resolved unit is resolved to itself, with the same libraries in any
order, whether it keeps the other fields of the unit or those it was resolved
to. -/
theorem resolve_idempotent (u : CompilationUnit) {discovered other : List (LibraryReference base)}
    (h : other.Perm discovered) :
    ({ u with references := (u.resolve discovered).references.map (·.path) } :
      CompilationUnit).resolve other = u.resolve discovered ∧
    (u.resolve discovered).toUnit.resolve other = u.resolve discovered := by
  rw [resolve_perm _ h, resolve_perm _ h]
  constructor
  · have hsame := references_resolve_again u discovered
      (v := { u with references := (u.resolve discovered).references.map (·.path) }) rfl
    exact congrArg (ResolvedUnit.mk u.name u.sourceFiles u.defines · (distinct u.projectReferences))
      hsame
  · have hsame := references_resolve_again u discovered
      (v := (u.resolve discovered).toUnit) rfl
    have hprojects : distinct (distinct u.projectReferences) = distinct u.projectReferences :=
      distinct_eq_self (nodup_distinct _)
    exact congrArg₂ (ResolvedUnit.mk u.name u.sourceFiles u.defines) hsame hprojects

/-- The unit spells its first library in two ways, the second one is found
under two spellings, and a reference to a unit is repeated. -/
theorem resolve_idempotent_spellings :
    let u : CompilationUnit :=
      { name := "App", references := ["lib/B.dll", "a.dll", "Lib/b.dll"],
        projectReferences := ["Lib", "Lib"] }
    let discovered : List (LibraryReference ["w"]) := [⟨"lib/C.dll"⟩, ⟨"A.dll"⟩, ⟨"./a.DLL"⟩]
    discovered.reverse.Perm discovered ∧
      ({ u with references := (u.resolve discovered).references.map (·.path) } :
        CompilationUnit).resolve discovered.reverse = u.resolve discovered ∧
      (u.resolve discovered).toUnit.resolve discovered.reverse = u.resolve discovered := by
  intro u discovered
  exact ⟨discovered.reverse_perm, resolve_idempotent u discovered.reverse_perm⟩

end IdeProjects
