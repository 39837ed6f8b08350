import IdeProjects.Proofs.Unit.Snapshot

/-!
# `IdeProjects.Proofs.Unit.RoundTrip`: units written and read again

A unit that was read is `WellFormed`: its name and its texts are such as
the schema of units lets pass, and its symbols and project references are
their own first occurrences (`States.wellFormed`). A unit of that kind is
the one that its own document states, and no other unit is
(`states_toJson_iff`). So of the document of a list of units every item
states its unit, nothing is left out, and the list comes back as it was,
just when all units are well formed (`ofJson_document_iff`).
-/

set_option autoImplicit false

namespace IdeProjects

/-! ### What was read once -/

/-- A unit that a document can state. -/
structure CompilationUnit.WellFormed (u : CompilationUnit) : Prop where
  name : IsUnitName u.name
  sourceFiles : ∀ s ∈ u.sourceFiles, s ≠ ""
  defines : ∀ s ∈ u.defines, s ≠ ""
  references : ∀ s ∈ u.references, s ≠ ""
  projectReferences : ∀ s ∈ u.projectReferences, s ≠ ""
  /-- No symbol is repeated. -/
  nodupDefines : u.defines.Nodup
  /-- No project reference is repeated. -/
  nodupProjectReferences : u.projectReferences.Nodup

/-- The texts of an optional field are not empty. -/
theorem HoldsTexts.ne_empty {item : Json} {field : String} {texts : List String}
    (h : HoldsTexts item field texts) : ∀ s ∈ texts, s ≠ "" := by
  rcases h with ⟨_, rfl⟩ | ⟨_, htexts⟩
  · simp
  · exact htexts

/-- Whatever is stated is well formed: the texts of a list that is read are
not empty, and the lists of a unit in which repeats are dropped have none. -/
theorem States.wellFormed {item : Json} {u : CompilationUnit} (h : States item u) :
    u.WellFormed := by
  obtain ⟨defines, hdefines, hfirst⟩ := h.defines
  obtain ⟨projectReferences, hprojects, hfirst'⟩ := h.projectReferences
  constructor
  case name => exact h.isName
  case sourceFiles => exact h.sourceFiles.ne_empty
  case references => exact h.references.ne_empty
  case defines =>
    intro s hs
    rw [hfirst, mem_distinct] at hs
    exact hdefines.ne_empty s hs
  case projectReferences =>
    intro s hs
    rw [hfirst', mem_distinct] at hs
    exact hprojects.ne_empty s hs
  case nodupDefines => exact hfirst ▸ nodup_distinct defines
  case nodupProjectReferences => exact hfirst' ▸ nodup_distinct projectReferences

/-! ### The document of a unit -/

/-- A list of texts can be read off its value. -/
theorem Json.ofTexts_injective {texts texts' : List String}
    (h : Json.ofTexts texts = .ofTexts texts') : texts = texts' := by
  have hread : (Json.ofTexts texts').texts? = some texts := Json.texts?_eq_some_iff.mpr h.symm
  rw [Json.texts?_eq_some_iff.mpr rfl] at hread
  exact (Option.some.inj hread).symm

/-- A field that holds texts holds no others. -/
theorem holdsTexts_iff_of_field? {item : Json} {field : String} {stored texts : List String}
    (h : item.field? field = some (.ofTexts stored)) :
    HoldsTexts item field texts ↔ texts = stored ∧ ∀ s ∈ stored, s ≠ "" := by
  rw [HoldsTexts, h]
  constructor
  · rintro (⟨hnone, _⟩ | ⟨hsome, htexts⟩)
    · cases hnone
    · obtain rfl := Json.ofTexts_injective (Option.some.inj hsome)
      exact ⟨rfl, htexts⟩
  · rintro ⟨rfl, htexts⟩
    exact Or.inr ⟨rfl, htexts⟩

/-- The document of a unit states the unit just when the unit is well
formed. -/
theorem states_toJson_iff {u : CompilationUnit} : States u.toJson u ↔ u.WellFormed := by
  refine ⟨States.wellFormed, fun h => ?_⟩
  constructor
  case name => rfl
  case isName => exact h.name
  case sourceFiles => exact (holdsTexts_iff_of_field? rfl).mpr ⟨rfl, h.sourceFiles⟩
  case references => exact (holdsTexts_iff_of_field? rfl).mpr ⟨rfl, h.references⟩
  case defines =>
    exact ⟨u.defines, (holdsTexts_iff_of_field? rfl).mpr ⟨rfl, h.defines⟩,
      (distinct_eq_self h.nodupDefines).symm⟩
  case projectReferences =>
    exact ⟨u.projectReferences, (holdsTexts_iff_of_field? rfl).mpr ⟨rfl, h.projectReferences⟩,
      (distinct_eq_self h.nodupProjectReferences).symm⟩

/-- The fields of the document of a well-formed unit are taken as they are,
and nothing of them is lost. -/
theorem ofJson_toJson {u : CompilationUnit} (h : u.WellFormed) :
    ∃ record, UnitRecord.ofJson u.toJson = .ok record ∧ record.unit = u ∧
      record.toJson = u.toJson :=
  ⟨u.record, ofJson_of_states (states_toJson_iff.mpr h), u.unit_record, rfl⟩

namespace Snapshot

/-- The document of units. -/
def document (units : List CompilationUnit) : Json :=
  .object [("units", .array (units.map CompilationUnit.toJson))]

/-- The document of units is a snapshot of the values of the units. -/
theorem isSnapshot_document (units : List CompilationUnit) :
    IsSnapshot (document units) (units.map CompilationUnit.toJson) where
  units := rfl
  installRoot root h := by
    have hnone : (document units).field? "install_root" = none := rfl
    rw [hnone] at h
    cases h

/-- Well-formed units are what their documents state. -/
theorem filterMap_statedUnit?_toJson {units : List CompilationUnit}
    (h : ∀ u ∈ units, u.WellFormed) :
    (units.map CompilationUnit.toJson).filterMap statedUnit? = units := by
  induction units with
  | nil => rfl
  | cons u rest ih =>
      have hself : statedUnit? u.toJson = some u :=
        statedUnit?_eq_some_iff.mpr (states_toJson_iff.mpr (h u (by simp)))
      rw [List.map_cons, List.filterMap_cons_some hself, ih fun v hv => h v (by simp [hv])]

/-- Units that were read are well formed. -/
theorem wellFormed_of_ofJson {value : Json} {s : Snapshot} (h : ofJson value = .ok s) :
    ∀ u ∈ s.units, u.WellFormed := by
  obtain ⟨items, _, rfl⟩ := ofJson_eq_ok h
  intro u hu
  obtain ⟨item, _, hstated⟩ := List.mem_filterMap.mp hu
  exact (statedUnit?_eq_some_iff.mp hstated).wellFormed

/-- The document of units gives back the units, and leaves nothing out,
just when all of them are well formed. -/
theorem ofJson_document_iff {units : List CompilationUnit} :
    ofJson (document units) = .ok ⟨units, []⟩ ↔ ∀ u ∈ units, u.WellFormed := by
  refine ⟨wellFormed_of_ofJson, fun h => ?_⟩
  have hnone : leftOut objection? 0 (units.map CompilationUnit.toJson) = [] := by
    rw [leftOut_eq_nil_iff]
    intro item hitem
    obtain ⟨u, hu, rfl⟩ := List.mem_map.mp hitem
    have hstates : ∃ v, States u.toJson v := ⟨u, states_toJson_iff.mpr (h u hu)⟩
    rw [objection?, errors_unit_eq_nil_iff.mpr hstates]
  rw [ofJson_of_isSnapshot (isSnapshot_document units), filterMap_statedUnit?_toJson h, hnone]

/-- Units that were read are read again from their own document: it is
accepted, nothing is skipped and nothing is logged. Written and read again,
each unit is what it was, and read and written again, so is its
document. -/
theorem ofJson_document_units {value : Json} {s : Snapshot} (h : ofJson value = .ok s) :
    (∃ again, ofJson (document s.units) = .ok again ∧ again.units = s.units ∧
      again.skipped = [] ∧ again.warnings = []) ∧
    ∀ u ∈ s.units, ∃ record, UnitRecord.ofJson u.toJson = .ok record ∧ record.unit = u ∧
      record.toJson = u.toJson := by
  have hunits := wellFormed_of_ofJson h
  exact ⟨⟨⟨s.units, []⟩, ofJson_document_iff.mpr hunits, rfl, rfl, rfl⟩,
    fun u hu => ofJson_toJson (hunits u hu)⟩

/-- Of three items the first repeats itself and the others state no unit:
what is read of them is read again without repeats and without the
others. -/
theorem ofJson_document_units_repeats :
    let items : List Json := [
      .object [("defines", .ofTexts ["X", "Y", "X"]), ("name", .text "A"),
        ("project_references", .ofTexts ["B", "B"])],
      .object [("name", .text "a/b")],
      .integer 3]
    let u : CompilationUnit := { name := "A", defines := ["X", "Y"], projectReferences := ["B"] }
    ∃ s, ofJson (.object [("units", .array items)]) = .ok s ∧ s.units = [u] ∧
      s.skipped.map (·.index) = [1, 2] ∧
      ∃ again, ofJson (document [u]) = .ok again ∧ again.units = [u] ∧ again.skipped = [] ∧
        again.warnings = [] := by
  intro items u
  have hsnapshot : IsSnapshot (.object [("units", .array items)]) items :=
    ⟨rfl, fun root hroot => by cases hroot⟩
  have hread := ofJson_of_isSnapshot hsnapshot
  have hunits : items.filterMap statedUnit? = [u] := by decide +kernel
  have hskipped : (leftOut objection? 0 items).map (·.index) = [1, 2] := by
    rw [map_index_leftOut_objection?]
    decide +kernel
  rw [hunits] at hread
  exact ⟨_, hread, rfl, hskipped, (ofJson_document_units hread).1⟩

end Snapshot

end IdeProjects
