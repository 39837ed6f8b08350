import IdeProjects.Proofs.Descriptor.HintPaths
import IdeProjects.Proofs.Path.FileName
import IdeProjects.Proofs.Unit.FileNames
import IdeProjects.Proofs.Unit.Names
import IdeProjects.Proofs.Unit.RoundTrip

/-!
# `IdeProjects.Proofs.Descriptor.Characters`: which project files XML allows

A project file is read by XML tools, and XML leaves out some characters
altogether: no entity stands for them. Escaping rewrites five characters and
passes the others, and the checks on a unit look at empty texts, blanks,
slashes and dots (`exists_snapshot_keeps_iff`). So the text of a project file
is XML exactly if the values that it shows are (`isXmlText_projectText_iff`).

`isXmlText_of_snapshot_iff` says which values these are for a unit that comes
from a snapshot: a discovered library may stand for one of its own paths, and
what is replaced is not written.
-/

set_option autoImplicit false

namespace IdeProjects

/-! ### Texts that XML allows -/

/-- A character that XML 1.0 allows in a document. -/
def IsXmlChar (c : Char) : Prop :=
  c = '\t' ∨ c = '\n' ∨ c = '\r' ∨ (0x20 ≤ c.toNat ∧ c.toNat ≤ 0xD7FF) ∨
    (0xE000 ≤ c.toNat ∧ c.toNat ≤ 0xFFFD) ∨ 0x10000 ≤ c.toNat

instance (c : Char) : Decidable (IsXmlChar c) :=
  inferInstanceAs (Decidable (_ ∨ _))

/-- A text with no other characters. -/
def IsXmlText (s : String) : Prop := ∀ c ∈ s.toList, IsXmlChar c

instance (s : String) : Decidable (IsXmlText s) :=
  List.decidableBAll IsXmlChar s.toList

/-- Two texts in a row may stand in a file if each of them may. -/
@[simp] theorem isXmlText_append {s r : String} :
    IsXmlText (s ++ r) ↔ IsXmlText s ∧ IsXmlText r := by
  simp only [IsXmlText, String.toList_append, List.forall_mem_append]

/-- Texts can be joined by a text that XML allows. -/
theorem isXmlText_intercalate {sep : String} (hsep : IsXmlText sep) {texts : List String} :
    IsXmlText (sep.intercalate texts) ↔ ∀ s ∈ texts, IsXmlText s := by
  induction texts with
  | nil => simp [IsXmlText]
  | cons s rest ih =>
      cases rest with
      | nil => simp
      | cons next others =>
          rw [String.intercalate_cons_cons, isXmlText_append, isXmlText_append, ih,
            List.forall_mem_cons]
          simp [hsep]

/-! ### Values -/

namespace Markup

/-- An entity is made of XML characters and stands for one. -/
theorem isXmlChar_escapeChar (c : Char) : (∀ d ∈ escapeChar c, IsXmlChar d) ↔ IsXmlChar c := by
  by_cases hspecial : c ∈ special
  · simp only [special, List.mem_cons, List.not_mem_nil, or_false] at hspecial
    rcases hspecial with rfl | rfl | rfl | rfl | rfl <;> simp [escapeChar, IsXmlChar]
  · simp [escapeChar_eq_self hspecial]

/-- Escaping neither adds a character that XML leaves out nor removes one. -/
@[simp] theorem isXmlText_escape {s : String} : IsXmlText (escape s) ↔ IsXmlText s := by
  rw [IsXmlText, escape, String.toList_ofList, List.forall_mem_flatMap]
  exact forall₂_congr fun c _ => isXmlChar_escapeChar c

/-- Both slashes are XML characters. -/
@[simp] theorem isXmlText_backslashed {s : String} : IsXmlText (backslashed s) ↔ IsXmlText s := by
  rw [IsXmlText, backslashed, String.toList_ofList, List.forall_mem_map]
  refine forall₂_congr fun c _ => ?_
  split
  · rename_i hslash
    subst hslash
    decide
  · rfl

end Markup

/-- An identifier is XML, whatever name it follows from. -/
@[simp] theorem isXmlText_braced (name : String) : IsXmlText (Guid.braced name) := by
  have halphabet : Guid.alphabet.all (fun d => decide (IsXmlChar d)) = true := by decide +kernel
  intro c hc
  exact of_decide_eq_true (List.all_eq_true.mp halphabet c (Guid.mem_braced hc))

/-- The name that is shown for a library is cut out of its path. -/
theorem isXmlText_displayName {base : Location} {r : LibraryReference base}
    (h : IsXmlText r.path) : IsXmlText r.displayName := fun c hc => by
  rw [LibraryReference.displayName, String.toList_ofList] at hc
  exact h c (FileName.mem_of_mem_lastPart (FileName.mem_of_mem_stem hc))

/-! ### Lines -/

namespace Project

open Markup

variable {base : Location}

/-- The texts that stand around the values of a project file. -/
theorem isXmlText_fixed :
    IsXmlText "\n" ∧ IsXmlText "<Project Sdk=\"Microsoft.NET.Sdk\">" ∧ IsXmlText "</Project>" ∧
    IsXmlText "  <PropertyGroup>" ∧ IsXmlText "  </PropertyGroup>" ∧
    IsXmlText "  <ItemGroup>" ∧ IsXmlText "  </ItemGroup>" ∧
    IsXmlText "    <" ∧ IsXmlText ">" ∧ IsXmlText "</" ∧
    IsXmlText "    <Reference Include=\"" ∧ IsXmlText "    </Reference>" ∧
    IsXmlText "      <HintPath>" ∧ IsXmlText "</HintPath>" ∧
    IsXmlText "    <Compile Include=\"" ∧ IsXmlText "\" />" ∧
    IsXmlText "    <ProjectReference Include=\"" ∧ IsXmlText "    </ProjectReference>" ∧
    IsXmlText "      <Project>" ∧ IsXmlText "      <Name>" ∧ IsXmlText "</Name>" ∧
    IsXmlText "\">" ∧ IsXmlText ".csproj" ∧ IsXmlText ";" := by decide +kernel

/-- The names and the constant values of properties. -/
theorem isXmlText_properties :
    IsXmlText "TargetFramework" ∧ IsXmlText "OutputType" ∧ IsXmlText "Library" ∧
    IsXmlText "OutputPath" ∧ IsXmlText "LangVersion" ∧ IsXmlText "AllowUnsafeBlocks" ∧
    IsXmlText "true" ∧ IsXmlText "false" ∧ IsXmlText "EnableDefaultCompileItems" ∧
    IsXmlText "EnableDefaultEmbeddedResourceItems" ∧ IsXmlText "ProjectTypeGuids" ∧
    IsXmlText "ProjectGuid" ∧ IsXmlText "AssemblyName" ∧ IsXmlText "RootNamespace" ∧
    IsXmlText "DefineConstants" := by decide +kernel

/-- A property has a name that XML allows, and any value. -/
theorem isXmlText_property {name value : String} :
    IsXmlText (property name value) ↔ IsXmlText name ∧ IsXmlText value := by
  simp only [property, isXmlText_append, isXmlText_fixed, true_and, and_true]
  tauto

/-- The lines of properties may stand in a file exactly if the names and the
values may: no character is lost by the escape, and those of the markup are
fine. -/
theorem isXmlText_propertyGroupLines {properties : List (String × String)} :
    (∀ l ∈ propertyGroupLines properties, IsXmlText l) ↔
      ∀ p ∈ properties, IsXmlText p.1 ∧ IsXmlText p.2 := by
  simp only [propertyGroupLines, List.forall_mem_cons, List.forall_mem_append, List.forall_mem_map,
    isXmlText_property, isXmlText_escape, isXmlText_fixed, List.not_mem_nil, false_implies,
    implies_true, and_true, true_and]

/-- A group of lines may stand in a file if the lines may. -/
theorem isXmlText_itemGroup {ls : List String} :
    (∀ l ∈ itemGroup ls, IsXmlText l) ↔ ∀ l ∈ ls, IsXmlText l := by
  rw [itemGroup]
  split
  · rename_i hnone
    rw [List.isEmpty_iff.mp hnone]
  · rw [List.cons_append, List.forall_mem_cons, List.forall_mem_append]
    simp [isXmlText_fixed]

/-- Of the settings four hold texts that are given; the others are fixed. -/
theorem isXmlText_settingLines {o : RenderOptions} :
    (∀ l ∈ settingLines o, IsXmlText l) ↔
      IsXmlText o.targetFramework ∧ IsXmlText o.outputPath ∧ IsXmlText o.langVersion ∧
        ∀ s ∈ o.projectTypeGuids, IsXmlText s := by
  have hunsafe : IsXmlText (if o.allowUnsafeBlocks then "true" else "false") := by
    split <;> simp only [isXmlText_properties]
  have htypes : (∀ p ∈ (if o.projectTypeGuids.isEmpty then []
      else [("ProjectTypeGuids", ";".intercalate o.projectTypeGuids)]),
        IsXmlText p.1 ∧ IsXmlText p.2) ↔ ∀ s ∈ o.projectTypeGuids, IsXmlText s := by
    split
    · rename_i hnone
      simp [List.isEmpty_iff.mp hnone]
    · simp [isXmlText_fixed, isXmlText_properties, isXmlText_intercalate]
  rw [settingLines_eq, isXmlText_propertyGroupLines, settings, List.forall_mem_append, htypes]
  simp only [List.forall_mem_cons, isXmlText_properties, hunsafe, List.not_mem_nil, false_implies,
    implies_true, and_true, true_and, and_assoc]

/-- The identifier of a unit is XML, so its name and its symbols decide. -/
theorem isXmlText_identityLines {name : String} {defines : List String} :
    (∀ l ∈ identityLines name defines, IsXmlText l) ↔
      IsXmlText name ∧ ∀ s ∈ defines, IsXmlText s := by
  rw [identityLines_eq, isXmlText_propertyGroupLines, identity]
  simp [isXmlText_fixed, isXmlText_properties, isXmlText_intercalate]

/-- The display name of a library is part of its path. -/
theorem isXmlText_referenceLines {r : LibraryReference base} :
    (∀ l ∈ referenceLines r, IsXmlText l) ↔ IsXmlText r.path := by
  simp only [referenceLines, List.forall_mem_cons, isXmlText_append, isXmlText_escape,
    isXmlText_backslashed, isXmlText_fixed, List.not_mem_nil, false_implies, implies_true, and_true,
    true_and]
  exact and_iff_right_of_imp isXmlText_displayName

/-- The line of a source file may stand in a file if its path may. -/
theorem isXmlText_sourceLine {path : String} : IsXmlText (sourceLine path) ↔ IsXmlText path := by
  unfold sourceLine
  simp only [isXmlText_append, isXmlText_escape, isXmlText_backslashed, isXmlText_fixed, and_true,
    true_and]

/-- The lines of a project reference may stand in a file if its name may: its
identifier is made of digits. -/
theorem isXmlText_projectReferenceLines {name : String} :
    (∀ l ∈ projectReferenceLines name, IsXmlText l) ↔ IsXmlText name := by
  simp only [projectReferenceLines, projectFileName, List.forall_mem_cons, isXmlText_append,
    isXmlText_escape, isXmlText_braced, isXmlText_fixed, List.not_mem_nil, false_implies,
    implies_true, and_true, true_and, and_self]

/-- A project file is XML exactly if the values that it shows are. -/
theorem isXmlText_projectText_iff (u : ResolvedUnit base) (o : RenderOptions) :
    IsXmlText (u.projectText o) ↔ (∀ l ∈ settingLines o, IsXmlText l) ∧ IsXmlText u.name ∧
      (∀ s ∈ u.defines, IsXmlText s) ∧
      (∀ r ∈ selectReferences o.referenceCollisions u.references, IsXmlText r.path) ∧
      (∀ p ∈ u.sourceFiles, IsXmlText p) ∧ ∀ n ∈ u.projectReferences, IsXmlText n := by
  rw [ResolvedUnit.projectText, isXmlText_append, isXmlText_intercalate isXmlText_fixed.1,
    lines_eq]
  simp only [List.forall_mem_cons, List.forall_mem_append, isXmlText_itemGroup,
    List.forall_mem_flatMap, isXmlText_identityLines, isXmlText_referenceLines,
    isXmlText_sourceLine, isXmlText_projectReferenceLines, isXmlText_fixed, List.not_mem_nil,
    false_implies, implies_true, and_true, true_and, and_assoc]

end Project

/-! ### Units of a snapshot -/

/-- The default settings are XML. -/
theorem isXmlText_settingLines_default : ∀ l ∈ Project.settingLines {}, IsXmlText l := by
  rw [Project.isXmlText_settingLines]
  decide +kernel

/-- Where the paths that are found are XML, a unit is written in XML exactly
if its texts are; of its own paths those count that no found one stands for. -/
theorem isXmlText_resolve_iff {base : Location} {u : CompilationUnit}
    {discovered : List (LibraryReference base)} (hfound : ∀ r ∈ discovered, IsXmlText r.path) :
    IsXmlText ((u.resolve discovered).projectText {}) ↔
      IsXmlText u.name ∧ (∀ s ∈ u.defines, IsXmlText s) ∧
      (∀ p ∈ u.references, ⟨p⟩ ∈ (u.resolve discovered).references → IsXmlText p) ∧
      (∀ p ∈ u.sourceFiles, IsXmlText p) ∧ ∀ n ∈ u.projectReferences, IsXmlText n := by
  have hreferences : (∀ r ∈ (u.resolve discovered).references, IsXmlText r.path) ↔
      ∀ p ∈ u.references, ⟨p⟩ ∈ (u.resolve discovered).references → IsXmlText p := by
    constructor
    · intro hall p _ hp
      exact hall ⟨p⟩ hp
    · intro hown r hr
      rcases path_of_mem_resolve hr with hpath | hdiscovered
      · exact hown r.path hpath hr
      · exact hfound r hdiscovered
  have hprojects : (∀ n ∈ (u.resolve discovered).projectReferences, IsXmlText n) ↔
      ∀ n ∈ u.projectReferences, IsXmlText n :=
    forall_congr' fun _ => imp_congr_left mem_distinct
  have hkeep : ∀ rs : List (LibraryReference base),
      selectReferences ({} : RenderOptions).referenceCollisions rs = rs := fun _ => rfl
  rw [Project.isXmlText_projectText_iff, hkeep, hreferences, hprojects]
  exact and_iff_right isXmlText_settingLines_default

/-- The units that can come from a snapshot are the well-formed ones with a
name that is not blank: no check looks at other characters. -/
theorem exists_snapshot_keeps_iff (u : CompilationUnit) :
    (∃ value s, Snapshot.ofJson value = .ok s ∧
      u ∈ (Snapshot.ofEntries (s.units.map .unit)).units) ↔
    u.WellFormed ∧ Text.isBlank u.name = false := by
  constructor
  · rintro ⟨value, s, hread, hkept⟩
    obtain ⟨hentry, hblank, _⟩ := Snapshot.mem_units_iff.mp hkept
    obtain ⟨v, hv, hsame⟩ := List.mem_map.mp hentry
    cases hsame
    exact ⟨Snapshot.wellFormed_of_ofJson hread u hv, hblank⟩
  · rintro ⟨hformed, hblank⟩
    have hplain := (Snapshot.isPlainName_iff_isUnitName hformed.name.1).mpr hformed.name
    refine ⟨Snapshot.document [u], ⟨[u], []⟩, Snapshot.ofJson_document_iff.mpr ?_, ?_⟩
    · simpa using hformed
    · exact Snapshot.mem_units_iff.mpr ⟨by simp, hblank, hplain⟩

/-- A unit that is kept of a snapshot is stated by one of the items. Its
project file is XML exactly if the texts of the unit are that are written. -/
theorem isXmlText_of_snapshot_iff {base : Location} {value : Json} {s : Snapshot}
    (hread : Snapshot.ofJson value = .ok s) {u : CompilationUnit}
    (hkept : u ∈ (Snapshot.ofEntries (s.units.map .unit)).units)
    {discovered : List (LibraryReference base)} (hfound : ∀ r ∈ discovered, IsXmlText r.path) :
    (∃ item ∈ Snapshot.itemsOf value, States item u) ∧
    (IsXmlText ((u.resolve discovered).projectText {}) ↔
      IsXmlText u.name ∧ (∀ s ∈ u.defines, IsXmlText s) ∧
      (∀ p ∈ u.references, ⟨p⟩ ∈ (u.resolve discovered).references → IsXmlText p) ∧
      (∀ p ∈ u.sourceFiles, IsXmlText p) ∧ ∀ n ∈ u.projectReferences, IsXmlText n) := by
  refine ⟨?_, isXmlText_resolve_iff hfound⟩
  obtain ⟨items, hitems, rfl⟩ := Snapshot.ofJson_eq_ok hread
  obtain ⟨v, hv, hsame⟩ := List.mem_map.mp (Snapshot.mem_units_iff.mp hkept).1
  cases hsame
  obtain ⟨item, hmem, hstated⟩ := List.mem_filterMap.mp hv
  refine ⟨item, ?_, statedUnit?_eq_some_iff.mp hstated⟩
  rwa [Snapshot.itemsOf, hitems.units]

/-- The control character is not written, for the library is found under a
path without it; the quotes, the tabulator and the signs of tags are. -/
theorem isXmlText_of_snapshot_replaced_path :
    let u : CompilationUnit :=
      { name := "App\t\"1\"", defines := ["<&>"], references := ["lib/\x01/../A.dll"] }
    let discovered : List (LibraryReference ["w"]) := [⟨"lib/A.dll"⟩]
    u ∈ (Snapshot.ofEntries [.unit u]).units ∧ ¬ IsXmlText "lib/\x01/../A.dll" ∧
      IsXmlText ((u.resolve discovered).projectText {}) := by
  intro u discovered
  have hformed : u.WellFormed := by
    constructor <;> decide
  have hread : Snapshot.ofJson (Snapshot.document [u]) = .ok ⟨[u], []⟩ :=
    Snapshot.ofJson_document_iff.mpr (by simpa using hformed)
  have hkept : u ∈ (Snapshot.ofEntries [.unit u]).units := by decide +kernel
  have hfound : ∀ r ∈ discovered, IsXmlText r.path := by
    simp only [discovered, List.mem_singleton, forall_eq]
    decide +kernel
  -- Both references have one key, and the discovered spelling is kept.
  have hreferences : (u.resolve discovered).references = discovered := by
    rw [CompilationUnit.resolve, mergeReferences, List.mergeSort_singleton]
    decide +kernel
  refine ⟨hkept, by decide +kernel,
    (isXmlText_of_snapshot_iff hread hkept hfound).2.mpr ⟨?_, ?_, ?_, ?_, ?_⟩⟩
  · decide +kernel
  · simp only [u, List.mem_singleton, forall_eq]
    decide +kernel
  · rw [hreferences]
    simp [u, discovered]
  · simp [u]
  · simp [u]

/-- A unit whose name ends in a control character is accepted, kept and
written with it. -/
theorem not_isXmlText_control_character :
    let u : CompilationUnit := { name := "A\x01" }
    Snapshot.ofJson (Snapshot.document [u]) = .ok ⟨[u], []⟩ ∧
      u ∈ (Snapshot.ofEntries [.unit u]).units ∧
      ¬ IsXmlText ((u.resolve ([] : List (LibraryReference ["w"]))).projectText {}) := by
  intro u
  have hformed : u.WellFormed := by
    constructor <;> decide
  refine ⟨Snapshot.ofJson_document_iff.mpr (by simpa using hformed), by decide +kernel, ?_⟩
  intro htext
  have hname := ((isXmlText_resolve_iff (by simp)).mp htext).1
  exact absurd hname (by decide +kernel)

end IdeProjects
