import IdeProjects.Descriptor.Collisions
import IdeProjects.Proofs.Unit.Merge

/-!
# `IdeProjects.Proofs.Descriptor.Collisions`: the last library of each name

A project file that does not keep all references lists one for each display
name, up to case. `LastOfEachName` says which ones and in which order, of
the positions in the whole list: the names stand where they stood first, and
the reference of a name is the last one. No two lists do that
(`LastOfEachName.unique`), and the references that a project file lists do
(`lastOfEachName_selectReferences`). So a reference is pushed out by one of its
name and by no other (`displaces_iff`).

Names and keys are independent: libraries with different keys may have one
name, and `a.dll` and `a.dll/.` have one key and two names. So that the listed
references have different keys is no matter of names. It holds because each
of them is a reference of the unit, and listed once.
-/

set_option autoImplicit false

namespace IdeProjects

variable {base : Location}

/-- The references `selected` are the last one of each name among the
`references`, in the order in which the names stand first. -/
structure LastOfEachName (references selected : List (LibraryReference base)) : Prop where
  /-- Every name stands once. -/
  once : (selected.map (·.nameKey)).Nodup
  /-- No name is lost and none is invented. -/
  names : ∀ n, n ∈ selected.map (·.nameKey) ↔ n ∈ references.map (·.nameKey)
  /-- Names stand in the order of their first references. -/
  order : (selected.map (·.nameKey)).Pairwise fun n m =>
    (references.map (·.nameKey)).idxOf n < (references.map (·.nameKey)).idxOf m
  /-- Each is one of the references, and no later one has its name. -/
  last : ∀ r ∈ selected, ∃ before after, references = before ++ r :: after ∧
    ∀ s ∈ after, s.nameKey ≠ r.nameKey
  /-- Each reference is the last of its name, and selected, or else a selected
  one of its name follows. -/
  dropped : ∀ before r after, references = before ++ r :: after →
    (r ∈ selected ∧ ∀ s ∈ after, s.nameKey ≠ r.nameKey) ∨
      ∃ s ∈ after, s ∈ selected ∧ s.nameKey = r.nameKey

namespace LastOfEachName

variable {references selected other : List (LibraryReference base)}

/-- Every library that is selected is one of those given. -/
theorem mem (h : LastOfEachName references selected) {r : LibraryReference base}
    (hr : r ∈ selected) : r ∈ references := by
  obtain ⟨before, after, hsplit, _⟩ := h.last r hr
  rw [hsplit]
  simp

/-- What is found from the end under its name is the last one. -/
theorem find?_reverse (h : LastOfEachName references selected) {r : LibraryReference base}
    (hr : r ∈ selected) : references.reverse.find? (·.nameKey = r.nameKey) = some r := by
  obtain ⟨before, after, hsplit, hlast⟩ := h.last r hr
  rw [hsplit]
  exact find?_reverse_of_last (by simp) fun s hs => by simpa using hlast s hs

/-- Only one list has the last reference of each name. -/
theorem unique (h : LastOfEachName references selected) (h' : LastOfEachName references other) :
    selected = other := by
  -- One set of names, ordered by the same positions, is one list of names.
  have hperm : (selected.map (·.nameKey)).Perm (other.map (·.nameKey)) :=
    (List.perm_ext_iff_of_nodup h.once h'.once).mpr fun n => (h.names n).trans (h'.names n).symm
  have hnames : selected.map (·.nameKey) = other.map (·.nameKey) :=
    hperm.eq_of_pairwise (fun _ _ _ _ hlt hlt' => absurd hlt' (Nat.lt_asymm hlt)) h.order h'.order
  -- Both have what is found under a name from the end.
  refine eq_of_map_eq hnames fun r hr s hs hname => ?_
  have hfound := h.find?_reverse hr
  rw [hname, h'.find?_reverse hs] at hfound
  exact (Option.some.inj hfound).symm

/-- References with different names are the last ones of their names. -/
theorem again (h : LastOfEachName references selected) : LastOfEachName selected selected := by
  have hlast : ∀ before r after, selected = before ++ r :: after →
      ∀ s ∈ after, s.nameKey ≠ r.nameKey := by
    intro before r after hsplit s hs hname
    have honce := h.once
    rw [hsplit, List.map_append, List.map_cons] at honce
    have hnone := (List.nodup_cons.mp (List.nodup_append.mp honce).2.1).1
    exact hnone (hname ▸ List.mem_map_of_mem hs)
  refine ⟨h.once, fun n => Iff.rfl, ?_, fun r hr => ?_, fun before r after hsplit => ?_⟩
  · have horder := pairwise_idxOf_distinct (selected.map (·.nameKey))
    rwa [distinct_eq_self h.once] at horder
  · obtain ⟨before, after, hsplit⟩ := List.append_of_mem hr
    exact ⟨before, after, hsplit, hlast before r after hsplit⟩
  · exact Or.inl ⟨by rw [hsplit]; simp, hlast before r after hsplit⟩

/-- Of references with different keys the last ones of their names have
different keys. -/
theorem nodup_keys (h : LastOfEachName references selected)
    (honce : (references.map (·.key)).Nodup) : (selected.map (·.key)).Nodup :=
  (List.Nodup.of_map _ h.once).map_on fun _ hr _ hs hkey =>
    List.inj_on_of_nodup_map honce (h.mem hr) (h.mem hs) hkey

end LastOfEachName

/-! ### What a project file lists -/

/-- References are put in their places by their names. -/
theorem putByName_eq (r : LibraryReference base) (xs : List (LibraryReference base)) :
    putByName r xs = putKeyed (·.nameKey) r xs := by
  induction xs with
  | nil => rfl
  | cons x rest ih => rw [putByName, putKeyed, ih]

/-- In the mode `overwrite` the libraries are put in the slot of their name
one after the other. -/
theorem selectReferences_overwrite_eq (references : List (LibraryReference base)) :
    selectReferences .overwrite references =
      references.foldl (fun kept r => putKeyed (·.nameKey) r kept) [] := by
  simp only [selectReferences, putByName_eq]

/-- The names of the selected libraries are those of all, each once and in the
order of their first. -/
theorem names_selectReferences (references : List (LibraryReference base)) :
    (selectReferences .overwrite references).map (·.nameKey) =
      distinct (references.map (·.nameKey)) := by
  rw [selectReferences_overwrite_eq, map_foldl_putKeyed]
  simp

/-- Under a name stands the last reference with the name. -/
theorem find?_selectReferences (references : List (LibraryReference base)) (n : String) :
    (selectReferences .overwrite references).find? (·.nameKey = n) =
      references.reverse.find? (·.nameKey = n) := by
  rw [selectReferences_overwrite_eq, find?_foldl_putKeyed]
  simp

/-- A reference is listed if it is the last one of its name. -/
theorem mem_selectReferences_iff {references : List (LibraryReference base)}
    {r : LibraryReference base} :
    r ∈ selectReferences .overwrite references ↔
      references.reverse.find? (·.nameKey = r.nameKey) = some r := by
  have honce : ((selectReferences .overwrite references).map (·.nameKey)).Nodup := by
    rw [names_selectReferences]
    exact nodup_distinct _
  have hone : r ∈ selectReferences .overwrite references →
      ∀ s ∈ selectReferences .overwrite references, s.nameKey = r.nameKey → s = r :=
    fun hr s hs hname => List.inj_on_of_nodup_map honce hs hr hname
  rw [← find?_selectReferences]
  exact (find?_eq_some_iff_mem LibraryReference.nameKey hone).symm

/-- The last reference of a name is listed. -/
theorem mem_selectReferences_of_last {before after : List (LibraryReference base)}
    {r : LibraryReference base} (hlast : ∀ s ∈ after, s.nameKey ≠ r.nameKey) :
    r ∈ selectReferences .overwrite (before ++ r :: after) :=
  mem_selectReferences_iff.mpr
    (find?_reverse_of_last (by simp) fun s hs => by simpa using hlast s hs)

/-- A project file that does not keep all references lists the last one of
each name. -/
theorem lastOfEachName_selectReferences (references : List (LibraryReference base)) :
    LastOfEachName references (selectReferences .overwrite references) := by
  have hnames := names_selectReferences references
  constructor
  case once =>
    rw [hnames]
    exact nodup_distinct _
  case names =>
    intro n
    rw [hnames, mem_distinct]
  case order =>
    rw [hnames]
    exact pairwise_idxOf_distinct _
  case last =>
    intro r hr
    obtain ⟨before, after, hsplit, _, hlast⟩ := exists_last (mem_selectReferences_iff.mp hr)
    exact ⟨before, after, hsplit, fun s hs => by simpa using hlast s hs⟩
  case dropped =>
    rintro before r after rfl
    by_cases hlater : ∃ s ∈ after, s.nameKey = r.nameKey
    · -- The last of the later ones is the last of all.
      obtain ⟨s, hs, hname⟩ := hlater
      obtain ⟨earlier, last, later, rfl, hlast, hnone⟩ :=
        exists_last_of_mem (p := fun s => decide (s.nameKey = r.nameKey)) hs (by simpa using hname)
      have hsame : last.nameKey = r.nameKey := by simpa using hlast
      refine Or.inr ⟨last, by simp, ?_, hsame⟩
      rw [← List.cons_append, ← List.append_assoc]
      exact mem_selectReferences_of_last fun s hs => by simpa [hsame] using hnone s hs
    · have hnone : ∀ s ∈ after, s.nameKey ≠ r.nameKey := fun s hs hname => hlater ⟨s, hs, hname⟩
      exact Or.inl ⟨mem_selectReferences_of_last hnone, hnone⟩

/-- In the mode `overwrite` a project file lists the last reference of each
name, and no other list does that; of what it lists it lists everything.
Those of a resolved unit that are listed have different keys. -/
theorem overwrite_lists_last (base : Location) :
    (∀ references : List (LibraryReference base),
      selectReferencesBy "overwrite" references = .ok (selectReferences .overwrite references) ∧
      (∀ selected, LastOfEachName references selected ↔
        selected = selectReferences .overwrite references) ∧
      selectReferences .overwrite (selectReferences .overwrite references) =
        selectReferences .overwrite references) ∧
    ∀ (u : CompilationUnit) (discovered : List (LibraryReference base)),
      ((selectReferences .overwrite (u.resolve discovered).references).map (·.key)).Nodup := by
  refine ⟨fun references => ?_, fun u discovered => ?_⟩
  · have hlast := lastOfEachName_selectReferences references
    refine ⟨rfl, fun selected => ⟨fun h => h.unique hlast, ?_⟩, ?_⟩
    · rintro rfl
      exact hlast
    · exact (lastOfEachName_selectReferences _).unique hlast.again
  · exact (lastOfEachName_selectReferences _).nodup_keys (isMerge_resolve u discovered).once

/-- The last `Foo` stands in the place of the first one. -/
example : selectReferences .overwrite
    ([⟨"a/Foo.dll"⟩, ⟨"Bar.dll"⟩, ⟨"b\\foo.DLL"⟩] : List (LibraryReference ["w"])) =
      [⟨"b\\foo.DLL"⟩, ⟨"Bar.dll"⟩] := by decide +kernel

/-! ### One reference in the place of another -/

/-- In some list the reference `r` is listed, and with `s` somewhere behind it
it is not. -/
def Displaces (s r : LibraryReference base) : Prop :=
  ∃ before between after,
    r ∈ selectReferences .overwrite (before ++ r :: (between ++ after)) ∧
    r ∉ selectReferences .overwrite (before ++ r :: (between ++ s :: after))

/-- A reference displaces the others of its name, and no more. Where it is
added, the last one of a name is looked for from the end; the two searches
differ only there. -/
theorem displaces_iff {s r : LibraryReference base} :
    Displaces s r ↔ s ≠ r ∧ s.nameKey = r.nameKey := by
  constructor
  · rintro ⟨before, between, after, hwithout, hwith⟩
    by_contra hsame
    rw [not_and', not_not] at hsame
    refine hwith ?_
    rw [mem_selectReferences_iff] at hwithout ⊢
    -- From the end both searches run through `after` first.
    simp only [List.reverse_append, List.reverse_cons, List.append_assoc, List.find?_append,
      List.singleton_append, List.find?_cons] at hwithout ⊢
    cases hafter : after.reverse.find? (·.nameKey = r.nameKey) with
    | some x =>
        rw [hafter, Option.some_or] at hwithout
        rw [Option.some_or, hwithout]
    | none =>
        rw [hafter, Option.none_or] at hwithout
        rw [Option.none_or]
        by_cases hname : s.nameKey = r.nameKey
        · simp [hsame hname]
        · simpa [hname] using hwithout
  · rintro ⟨hne, hname⟩
    refine ⟨[], [], [], ?_, ?_⟩
    · rw [mem_selectReferences_iff]
      simp
    · rw [mem_selectReferences_iff]
      simp [hname, hne]

end IdeProjects
