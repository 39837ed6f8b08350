import IdeProjects.Proofs.Unit.Grammar
import IdeProjects.Proofs.Unit.LeftOut

/-!
# `IdeProjects.Proofs.Unit.Snapshot`: the units of a document

A document of units is sifted when it is read. The sieve is put into the
terms of `leftOut` first: the items that state a unit stay, and the others
are recorded at their positions (`ofItems_eq`).

`ofJson_reads_iff` is the contract of reading: which values are snapshots,
that everything else is refused and nothing else can happen, and that a
snapshot gives the units that its items state.
-/

set_option autoImplicit false

namespace IdeProjects

/-! ### Reading a document -/

/-- A value is a snapshot of the items: an object with the list of them
and, if it has an install root, a text for it. -/
structure IsSnapshot (value : Json) (items : List Json) : Prop where
  units : value.field? "units" = some (.array items)
  installRoot : ∀ root, value.field? "install_root" = some root → ∃ s, root = .text s

/-- A snapshot has one list of items. -/
theorem IsSnapshot.unique {value : Json} {items items' : List Json} (h : IsSnapshot value items)
    (h' : IsSnapshot value items') : items = items' := by
  have hunits := h.units.symm.trans h'.units
  rwa [Option.some.injEq, Json.array.injEq] at hunits

/-- The snapshot holds the units that the items state, in their order, and
records each other item once, in order, at its position and with what its
schema objects to. -/
structure Snapshot.Reads (items : List Json) (s : Snapshot) : Prop where
  units : s.units = items.filterMap statedUnit?
  ascending : (s.skipped.map (·.index)).Pairwise (· < ·)
  positions : ∀ i : Int, i ∈ s.skipped.map (·.index) ↔
    ∃ (j : Nat) (item : Json), i = j ∧ items[j]? = some item ∧ ¬ ∃ u, States item u
  reasons : ∀ entry ∈ s.skipped, ∃ (j : Nat) (item : Json), entry.index = j ∧
    items[j]? = some item ∧ entry.reason = "; ".intercalate (DocumentKind.unit.errors item)

/-- The reason why an item is left out. -/
def objection? (item : Json) : Option String :=
  match DocumentKind.unit.errors item with
  | [] => none
  | errors => some ("; ".intercalate errors)

/-- An item is objected to if it states no unit, and the reason is its
listing. -/
theorem objection?_eq_some_iff {item : Json} {reason : String} :
    objection? item = some reason ↔
      (¬ ∃ u, States item u) ∧ reason = "; ".intercalate (DocumentKind.unit.errors item) := by
  rw [← errors_unit_eq_nil_iff, objection?]
  cases DocumentKind.unit.errors item with
  | nil => simp
  | cons error errors => simp [eq_comm]

/-- An item is objected to exactly if no unit is read off it. -/
theorem isSome_objection? (item : Json) :
    (objection? item).isSome = (statedUnit? item).isNone := by
  have hiff : (statedUnit? item).isSome = true ↔ objection? item = none := by
    rw [← errors_unit_eq_nil_iff_isSome, objection?]
    split <;> simp_all
  cases hunit : statedUnit? item <;> simp_all [Option.isSome_iff_ne_none]

/-- A value is a snapshot if its schema objects to nothing. The schema of the
whole document leaves the items to that of a unit, so nothing is said about
them here. -/
theorem units_schema_eq_nil_iff {value : Json} :
    DocumentKind.units.schema value = [] ↔ ∃ items, IsSnapshot value items := by
  simp only [DocumentKind.schema, Schema.units, Schema.all_eq_nil_iff, Schema.fields_eq_nil_iff,
    List.forall_mem_cons, List.not_mem_nil, false_implies, implies_true, and_true,
    Schema.kind_eq_nil_iff, Schema.text_eq_nil_iff, ValueKind.holds_object_iff,
    ValueKind.holds_array_iff]
  constructor
  · rintro ⟨⟨fields, rfl⟩, hthere, hunits, hroot⟩
    rw [Schema.required_object_eq_nil_iff] at hthere
    obtain ⟨part, hpart⟩ := Option.isSome_iff_exists.mp hthere
    obtain ⟨items, rfl⟩ := hunits part hpart
    exact ⟨items, hpart, hroot⟩
  · rintro ⟨items, hunits, hroot⟩
    cases value with
    | object fields =>
        refine ⟨⟨fields, rfl⟩, ?_, fun part hpart => ?_, hroot⟩
        · rw [Schema.required_object_eq_nil_iff]
          exact Option.isSome_iff_exists.mpr ⟨_, hunits⟩
        · rw [hunits, Option.some.injEq] at hpart
          exact ⟨items, hpart.symm⟩
    | _ => simp [Json.field?] at hunits

namespace Snapshot

/-- Reading items never fails: it keeps what states a unit and tells of the
others. An item that the schema accepts states a unit, so the conversion after
the check has no way to fail. -/
theorem ofItems_eq (i : Nat) (items : List Json) :
    ofItems i items = .ok ⟨items.filterMap statedUnit?, leftOut objection? i items⟩ := by
  induction items generalizing i with
  | nil => rfl
  | cons item rest ih =>
      rw [ofItems, leftOut_cons, objection?, ih]
      cases herrors : DocumentKind.unit.errors item with
      | nil =>
          -- What the schema lets pass states a unit, so the conversion cannot fail.
          obtain ⟨u, hstates⟩ := errors_unit_eq_nil_iff.mp herrors
          rw [ofJson_of_states hstates,
            List.filterMap_cons_some (statedUnit?_eq_some_iff.mpr hstates)]
          simp only [bind, Except.bind, pure, Except.pure, keep, u.unit_record]
      | cons error errors =>
          have hnone : statedUnit? item = none := by
            rw [← Option.not_isSome_iff_eq_none, ← errors_unit_eq_nil_iff_isSome, herrors]
            simp
          rw [List.filterMap_cons_none hnone]
          rfl

/-- Reading a snapshot gives what its items state. -/
theorem ofJson_of_isSnapshot {value : Json} {items : List Json} (h : IsSnapshot value items) :
    ofJson value = .ok ⟨items.filterMap statedUnit?, leftOut objection? 0 items⟩ := by
  have hvalid := validate_eq_ok_iff.mpr (units_schema_eq_nil_iff.mpr ⟨items, h⟩)
  have hitems : itemsOf value = items := by rw [itemsOf, h.units]
  rw [ofJson, hvalid, hitems, ← ofItems_eq]
  rfl

/-- Whatever is no snapshot is refused. -/
theorem ofJson_of_not_isSnapshot {value : Json} (h : ¬ ∃ items, IsSnapshot value items) :
    ∃ violation, ofJson value = .error (.refusal (.violates .units violation)) := by
  have hinvalid : validate .units value ≠ .ok () :=
    fun hok => h (units_schema_eq_nil_iff.mp (validate_eq_ok_iff.mp hok))
  cases hcheck : validate .units value with
  | ok => exact absurd hcheck hinvalid
  | error fault =>
      obtain ⟨violation, rfl⟩ := validate_error hcheck
      exact ⟨violation, by rw [ofJson, hcheck]; rfl⟩

/-- What is read of a snapshot. -/
theorem ofJson_eq_ok {value : Json} {s : Snapshot} (h : ofJson value = .ok s) :
    ∃ items, IsSnapshot value items ∧
      s = ⟨items.filterMap statedUnit?, leftOut objection? 0 items⟩ := by
  by_cases hsnapshot : ∃ items, IsSnapshot value items
  · obtain ⟨items, hitems⟩ := hsnapshot
    rw [ofJson_of_isSnapshot hitems, Except.ok.injEq] at h
    exact ⟨items, hitems, h.symm⟩
  · obtain ⟨violation, hrefused⟩ := ofJson_of_not_isSnapshot hsnapshot
    rw [hrefused] at h
    cases h

/-- The positions of the items that are left out. -/
theorem map_index_leftOut_objection? (items : List Json) :
    (leftOut objection? 0 items).map (·.index) =
      (positionsFrom (fun item => (statedUnit? item).isNone) 0 items).map Nat.cast := by
  rw [map_index_leftOut]
  simp only [isSome_objection?]

/-- Items are read to the units that they state, and the rest is left out. -/
theorem reads_items (items : List Json) :
    Reads items ⟨items.filterMap statedUnit?, leftOut objection? 0 items⟩ where
  units := rfl
  ascending := by
    rw [map_index_leftOut, List.pairwise_map]
    exact (pairwise_positionsFrom _ _ _).imp Int.ofNat_lt.mpr
  positions i := by
    simp only [map_index_leftOut, List.mem_map, mem_positionsFrom_zero,
      Option.isSome_iff_exists, objection?_eq_some_iff]
    constructor
    · rintro ⟨j, ⟨item, hitem, _, hnone, _⟩, rfl⟩
      exact ⟨j, item, rfl, hitem, hnone⟩
    · rintro ⟨j, item, rfl, hitem, hnone⟩
      exact ⟨j, ⟨item, hitem, _, hnone, rfl⟩, rfl⟩
  reasons entry hentry := by
    obtain ⟨j, item, hitem, hreason, hindex⟩ := mem_leftOut_zero.mp hentry
    exact ⟨j, item, hindex, hitem, (objection?_eq_some_iff.mp hreason).2⟩

/-- Reading accepts the snapshots and refuses everything else, and nothing
else can happen. Of a snapshot it gives the units that the items state,
and records the other items. -/
theorem ofJson_reads_iff (value : Json) :
    ((∃ r, ofJson value = .error (.refusal r)) ↔ ¬ ∃ items, IsSnapshot value items) ∧
    (∀ fault, ofJson value = .error fault → ∃ r, fault = .refusal r) ∧
    ∀ items, IsSnapshot value items → ∃ s, ofJson value = .ok s ∧ Reads items s := by
  refine ⟨⟨?_, ?_⟩, ?_, ?_⟩
  · rintro ⟨r, hrefused⟩ ⟨items, hitems⟩
    rw [ofJson_of_isSnapshot hitems] at hrefused
    cases hrefused
  · intro hnone
    obtain ⟨violation, hrefused⟩ := ofJson_of_not_isSnapshot hnone
    exact ⟨_, hrefused⟩
  · intro fault hfault
    by_cases hsnapshot : ∃ items, IsSnapshot value items
    · obtain ⟨items, hitems⟩ := hsnapshot
      rw [ofJson_of_isSnapshot hitems] at hfault
      cases hfault
    · obtain ⟨violation, hrefused⟩ := ofJson_of_not_isSnapshot hsnapshot
      rw [hrefused] at hfault
      cases hfault
      exact ⟨_, rfl⟩
  · intro items hitems
    exact ⟨_, ofJson_of_isSnapshot hitems, reads_items items⟩

end Snapshot

end IdeProjects
