import IdeProjects.Proofs.Unit.FileNames
import IdeProjects.Proofs.Unit.Snapshot

/-!
# `IdeProjects.Proofs.Unit.Names`: two checks of names

The name of a unit is checked by the schema of documents and again, by
tests on the text, when the unit is handed to a run. On names that are not
blank the two say the same (`isPlainName_iff_isUnitName`). A blank name
passes the schema unless it is empty, and never passes the second check.

So of the units of a document the second check drops the blank names and no
others (`ofEntriesFrom_of_units`). `nameChecks_agree` says both, for all
documents and all units.
-/

set_option autoImplicit false

namespace IdeProjects

namespace Snapshot

/-- Names with no slash that are not reserved are the names of units, but
for the empty one. -/
theorem isPlainName_iff_isUnitName {name : String} (h : name ≠ "") :
    isPlainName name = true ↔ IsUnitName name := by
  simp [isPlainName, IsUnitName, Schema.reservedNames, h, and_assoc]

/-- The empty name is blank. -/
theorem ne_empty_of_not_isBlank {name : String} (h : Text.isBlank name = false) : name ≠ "" := by
  rintro rfl
  exact absurd h (by decide)

/-- What the second check does with a unit whose name can name a unit. -/
theorem sift_of_isUnitName {u : CompilationUnit} (h : IsUnitName u.name) :
    (Entry.unit u).sift =
      if Text.isBlank u.name then .error "unit has no name" else .ok u := by
  have hplain := (isPlainName_iff_isUnitName h.1).mpr h
  simp [Entry.sift, hplain]

/-- Handed to a run, units whose names can name units stay, but for those
whose names are blank. -/
theorem ofEntriesFrom_of_units (i : Nat) {units : List CompilationUnit}
    (h : ∀ u ∈ units, IsUnitName u.name) :
    ofEntriesFrom i (units.map .unit) =
      ⟨units.filter fun u => !Text.isBlank u.name,
        (positionsFrom (fun u => Text.isBlank u.name) i units).map fun (j : Nat) =>
          ⟨j, "unit has no name"⟩⟩ := by
  induction units generalizing i with
  | nil => rfl
  | cons u rest ih =>
      obtain ⟨hu, hrest⟩ := List.forall_mem_cons.mp h
      rw [List.map_cons, ofEntriesFrom, sift_of_isUnitName hu, ih _ hrest, positionsFrom_cons]
      cases hblank : Text.isBlank u.name <;> simp [hblank, keep, skip]

/-- Units that are stated can be named so. -/
theorem isUnitName_of_stated {items : List Json} :
    ∀ u ∈ items.filterMap statedUnit?, IsUnitName u.name := by
  intro u hu
  obtain ⟨item, _, hunit⟩ := List.mem_filterMap.mp hu
  exact (statedUnit?_eq_some_iff.mp hunit).isName

/-- An item that has nothing but a name states a unit if the name can name
one. -/
theorem errors_of_name_iff {name : String} :
    DocumentKind.unit.errors (.object [("name", .text name)]) = [] ↔ IsUnitName name := by
  rw [errors_unit_eq_nil_iff]
  constructor
  · rintro ⟨u, hstates⟩
    have hname : name = u.name := by simpa [Json.field?] using hstates.name
    exact hname ▸ hstates.isName
  · intro hname
    have hnone : ∀ field, field ≠ "name" →
        HoldsTexts (.object [("name", .text name)]) field [] := fun field hfield =>
      Or.inl ⟨by simp [Json.field?, hfield], rfl⟩
    exact ⟨{ name }, by simp [Json.field?], hname, hnone _ (by decide),
      ⟨[], hnone _ (by decide), rfl⟩, hnone _ (by decide), ⟨[], hnone _ (by decide), rfl⟩⟩

/-- The two checks of names agree. Of the units of a document the second
one drops those with a blank name, for want of a name, and keeps the
others in their order; and of the units with a name that is not blank it
keeps those whose name the schema accepts. The schema's pattern is found
where the rule that stands for it says so. -/
theorem nameChecks_agree :
    (∀ (value : Json) (s : Snapshot), ofJson value = .ok s →
      ofEntries (s.units.map .unit) =
        ⟨s.units.filter fun u => !Text.isBlank u.name,
          (positionsFrom (fun u => Text.isBlank u.name) 0 s.units).map fun (i : Nat) =>
            ⟨i, "unit has no name"⟩⟩) ∧
    (∀ (u : CompilationUnit) (entries : List Entry), .unit u ∈ entries →
      Text.isBlank u.name = false →
      (u ∈ (ofEntries entries).units ↔
        DocumentKind.unit.errors (.object [("name", .text u.name)]) = [])) ∧
    ∀ name : String, Schema.plain (.text name) = [] ↔ FindsPlainPattern name.toList := by
  refine ⟨fun value s hs => ?_, ?_, fun name => ?_⟩
  · obtain ⟨items, _, rfl⟩ := ofJson_eq_ok hs
    exact ofEntriesFrom_of_units 0 isUnitName_of_stated
  · intro u entries hu hblank
    have hname := ne_empty_of_not_isBlank hblank
    rw [mem_units_iff, errors_of_name_iff, isPlainName_iff_isUnitName hname]
    exact ⟨fun h => h.2.2, fun h => ⟨hu, hblank, h⟩⟩
  · rw [Schema.plain_text_eq_nil_iff, DocumentText.repaired_string, isPlain_iff_finds]

end Snapshot

end IdeProjects
