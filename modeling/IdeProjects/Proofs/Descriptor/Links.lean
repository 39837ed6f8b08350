import IdeProjects.Proofs.Descriptor.Project
import IdeProjects.Proofs.Descriptor.Solution
import Mathlib.Data.List.Nodup

/-!
# `IdeProjects.Proofs.Descriptor.Links`: where descriptors name each other

A unit is named in three places: by the file and the identifier in the
project files that refer to it, by the identifier in its own project file,
and by all three in the solution. This module says what is found there. In
a project file elements are looked for by name wherever they stand
(`Element.named`), so that an element in an unexpected place would be
found too. The solution has no escapes, and the entry of a project is
looked for in it as a text (`Solution.hasStretch_solutionText`).
-/

set_option autoImplicit false

namespace IdeProjects

namespace Markup

namespace Element

/-- The attribute values of an element. -/
def values : Element → List String
  | .leaf _ values _ => values
  | .group _ values _ => values

mutual

/-- The elements of a name, in an element and in all elements in it. -/
def named (name : String) : Element → List Element
  | .leaf name' values text => if name' = name then [.leaf name' values text] else []
  | .group name' values children =>
    (if name' = name then [.group name' values children] else []) ++ namedIn name children

/-- The elements of a name in a list of elements. -/
def namedIn (name : String) : List Element → List Element
  | [] => []
  | e :: rest => e.named name ++ namedIn name rest

end

/-- The elements of a name in a list are those in each of its elements. -/
theorem namedIn_eq_flatMap (name : String) (es : List Element) :
    namedIn name es = es.flatMap (named name) := by
  induction es with
  | nil => rfl
  | cons e rest ih => rw [namedIn, ih, List.flatMap_cons]

/-- A group of another name has the elements that its children have. -/
theorem named_group_of_ne {name name' : String} (h : name ≠ name') (values : List String)
    (children : List Element) :
    named name (.group name' values children) = children.flatMap (named name) := by
  rw [named, if_neg h.symm, List.nil_append, namedIn_eq_flatMap]

/-- A leaf of another name has none. -/
theorem named_leaf_of_ne {name name' : String} (h : name ≠ name') (values : List String)
    (text : String) : named name (.leaf name' values text) = [] := by
  rw [named, if_neg h.symm]

end Element

end Markup

namespace Project

open Markup

variable {base : Location}

/-! ### Elements of a project file by their names -/

/-- The elements of a name in a group of items are those in its items. -/
theorem named_itemGroupElements {name : String} (h : name ≠ "ItemGroup") (items : List Element) :
    (itemGroupElements items).flatMap (Element.named name) = items.flatMap (Element.named name) := by
  unfold itemGroupElements
  split
  · rename_i hempty
    rw [List.isEmpty_iff.mp hempty]
  · rw [List.flatMap_singleton, Element.named_group_of_ne h]

/-- The elements of a name in a group of properties are the properties of
the name. -/
theorem named_propertyGroupElement {name : String} (h : name ≠ "PropertyGroup")
    (properties : List (String × String)) :
    (propertyGroupElement properties).named name =
      (properties.filter (·.1 = name)).map fun p => .leaf p.1 [] p.2 := by
  rw [propertyGroupElement, Element.named_group_of_ne h]
  induction properties with
  | nil => rfl
  | cons p rest ih =>
      rw [List.map_cons, List.flatMap_cons, ih, Element.named]
      by_cases hp : p.1 = name <;> simp [hp]

/-- The names of the groups, and those met in libraries and sources. -/
def otherNames : List String :=
  ["Project", "PropertyGroup", "ItemGroup", "Reference", "HintPath", "Compile"]

/-- By any other name a project file has properties and what its project
references hold. -/
theorem named_element {name : String} (h : name ∉ otherNames) (u : ResolvedUnit base)
    (o : RenderOptions) :
    (element u o).named name =
      ((settings o ++ identity u.name u.defines).filter (·.1 = name)).map
          (fun p => .leaf p.1 [] p.2) ++
        u.projectReferences.flatMap fun n => (projectReferenceElement n).named name := by
  simp only [otherNames, List.mem_cons, List.not_mem_nil, or_false, not_or] at h
  obtain ⟨hproject, hproperties, hitems, hreference, hpath, hsource⟩ := h
  have hreferences : ∀ rs : List (LibraryReference base),
      rs.flatMap (fun r => (referenceElement r).named name) = [] := fun rs =>
    List.flatMap_eq_nil_iff.mpr fun r _ => by
      rw [referenceElement, Element.named_group_of_ne hreference, List.flatMap_singleton,
        Element.named_leaf_of_ne hpath]
  have hsources : ∀ paths : List String,
      paths.flatMap (fun path => (sourceElement path).named name) = [] := fun paths =>
    List.flatMap_eq_nil_iff.mpr fun path _ => Element.named_leaf_of_ne hsource _ _
  rw [element, Element.named_group_of_ne hproject]
  simp only [List.flatMap_append, List.flatMap_cons, List.flatMap_nil, List.append_nil,
    named_itemGroupElements hitems, named_propertyGroupElement hproperties,
    List.flatMap_map, hreferences, hsources, List.filter_append, List.map_append]

/-- The project references of a project file are those of the unit, in their
order. -/
theorem named_projectReference (u : ResolvedUnit base) (o : RenderOptions) :
    (element u o).named "ProjectReference" = u.projectReferences.map projectReferenceElement := by
  have hproperties : (settings o ++ identity u.name u.defines).filter
      (·.1 = "ProjectReference") = [] := by
    rw [settings]
    split <;> simp [identity]
  have hself : ∀ n, (projectReferenceElement n).named "ProjectReference" =
      [projectReferenceElement n] := fun n => by
    simp [projectReferenceElement, Element.named, Element.namedIn]
  rw [named_element (by decide), hproperties, List.map_nil, List.nil_append, List.map_eq_flatMap]
  exact List.flatMap_congr fun n _ => hself n

/-- A project file has one identifier, and it follows from the name of the
unit. -/
theorem named_projectGuid (u : ResolvedUnit base) (o : RenderOptions) :
    (element u o).named "ProjectGuid" = [.leaf "ProjectGuid" [] (Guid.braced u.name)] := by
  have hproperties : (settings o ++ identity u.name u.defines).filter (·.1 = "ProjectGuid") =
      [("ProjectGuid", Guid.braced u.name)] := by
    rw [settings]
    split <;> simp [identity]
  have hnone : ∀ n, (projectReferenceElement n).named "ProjectGuid" = [] := fun n => by
    simp [projectReferenceElement, Element.named, Element.namedIn]
  rw [named_element (by decide), hproperties, List.flatMap_eq_nil_iff.mpr fun n _ => hnone n]
  rfl

/-- A project reference holds one identifier. -/
theorem named_project (n : String) :
    (projectReferenceElement n).named "Project" = [.leaf "Project" [] (Guid.braced n)] := by
  simp [projectReferenceElement, Element.named, Element.namedIn]

/-- What a project file says refers to the project file `file` once, and to
the identifier `guid` with it. -/
def RefersOnce (e : Element) (file guid : String) : Prop :=
  ∃ reference, (e.named "ProjectReference").filter (·.values = [file]) = [reference] ∧
    reference.named "Project" = [.leaf "Project" [] guid]

/-- Each of the project references of a unit is there once, however often
the unit gives it. -/
theorem refersOnce_element (u : CompilationUnit) (libraries : List (LibraryReference base))
    (o : RenderOptions) {n : String} (hn : n ∈ u.projectReferences) :
    RefersOnce (element (u.resolve libraries) o) (projectFileName n) (Guid.braced n) := by
  refine ⟨projectReferenceElement n, ?_, named_project n⟩
  have hvalues : ∀ m, (projectReferenceElement m).values = [projectFileName n] ↔ m = n := fun m => by
    rw [projectReferenceElement, Element.values, List.cons.injEq]
    exact ⟨fun h => projectFileName_injective h.1, fun h => ⟨h ▸ rfl, rfl⟩⟩
  have honce : (distinct u.projectReferences).count n = 1 :=
    List.count_eq_one_of_mem (nodup_distinct _) (mem_distinct.mpr hn)
  rw [named_projectReference, CompilationUnit.resolve, List.filter_map]
  simp only [Function.comp_def, hvalues]
  rw [show (fun m => decide (m = n)) = (· == n) from funext fun m => rfl, List.filter_beq, honce]
  rfl

/-- The text of a reference to a unit: its file, its identifier and its
name. -/
def referenceText (name guid : String) : String :=
  "    <ProjectReference Include=\"" ++ escape (name ++ ".csproj") ++ "\">\n" ++
    "      <Project>" ++ guid ++ "</Project>\n" ++
    "      <Name>" ++ escape name ++ "</Name>\n" ++
    "    </ProjectReference>\n"

/-- The lines of a reference are its text. -/
theorem toList_referenceText (n : String) :
    (referenceText n (Guid.braced n)).toList =
      (projectReferenceLines n).flatMap fun l => l.toList ++ ['\n'] := by
  unfold projectReferenceLines referenceText projectFileName
  generalize Guid.braced n = guid, escape n = name, escape (n ++ ".csproj") = file
  simp

/-- A project file has the text of each of its project references. -/
theorem hasStretch_projectText (u : CompilationUnit) (libraries : List (LibraryReference base))
    (o : RenderOptions) {n : String} (hn : n ∈ u.projectReferences) :
    Text.HasStretch ((u.resolve libraries).projectText o) (referenceText n (Guid.braced n)) := by
  obtain ⟨earlier, later, hsplit⟩ := List.append_of_mem (mem_distinct.mpr hn)
  have hgroup : itemGroup ((distinct u.projectReferences).flatMap projectReferenceLines) =
      ("  <ItemGroup>" :: earlier.flatMap projectReferenceLines) ++ (projectReferenceLines n ++
        (later.flatMap projectReferenceLines ++ ["  </ItemGroup>"])) := by
    rw [hsplit, itemGroup, if_neg (by simp [projectReferenceLines])]
    simp only [List.flatMap_append, List.flatMap_cons, List.cons_append, List.append_assoc]
  have hreferences : (u.resolve libraries).projectReferences = distinct u.projectReferences := rfl
  -- The group is the last one, and the lines of `n` are in the middle of it.
  rw [ResolvedUnit.projectText, lines, hreferences, hgroup, List.append_assoc,
    List.append_assoc (_ :: _) (projectReferenceLines n ++ _), ← List.append_assoc,
    List.append_assoc (projectReferenceLines n)]
  exact Text.hasStretch_of_lines (by simp) (toList_referenceText n) _

end Project

/-! ### Entries of a solution -/

namespace Solution

/-- The text of a project's entry: its name, its file and its identifier. -/
def entryText (name guid : String) : String :=
  "Project(\"" ++ csharpProjectType ++ "\") = \"" ++ name ++ "\", \"" ++ name ++
    ".csproj\", \"" ++ guid ++ "\"\nEndProject\n"

/-- The lines of an entry are its text. -/
theorem toList_entryText (n : String) :
    (entryText n (Guid.braced n)).toList =
      (entryLines n).flatMap fun l => l.toList ++ ['\n'] := by
  unfold entryLines entryText projectFileName
  generalize Guid.braced n = guid, csharpProjectType = type
  simp

/-- The solution has the text of the entry of each name that is not
empty. -/
theorem hasStretch_solutionText {all : List String} {n : String} (hn : n ∈ all) (hne : n ≠ "") :
    Text.HasStretch (solutionText all) (entryText n (Guid.braced n)) := by
  have hmem : n ∈ names all := mem_distinct.mpr (List.mem_filter.mpr ⟨hn, by simpa using hne⟩)
  obtain ⟨earlier, later, hsplit⟩ := List.append_of_mem hmem
  -- The entries stand behind the two lines at the top.
  have hlines : ∃ rest, lines (names all) =
      (["Microsoft Visual Studio Solution File, Format Version 12.00", "# Visual Studio 15"] ++
        earlier.flatMap entryLines) ++ (entryLines n ++ rest) := by
    rw [hsplit]
    simp only [lines, List.flatMap_append, List.flatMap_cons, List.append_assoc]
    exact ⟨_, rfl⟩
  obtain ⟨rest, hlines⟩ := hlines
  rw [solutionText, hlines]
  exact Text.hasStretch_of_lines (by simp) (toList_entryText n) rest

end Solution

end IdeProjects
