import IdeProjects.Proofs.Descriptor.Links
import IdeProjects.Proofs.Library.Separators
import IdeProjects.Proofs.Unit.Merge

/-!
# `IdeProjects.Proofs.Descriptor.HintPaths`: how often a project file lists a path

A unit has one reference for each key, but a project file shows the paths,
with backslashes. References with one path in the file are references to one
library only if their keys agree, and a key depends on the separators unless
`SlashesAlike` holds of the path. So that is the condition under which no
project file lists a path twice (`hintPaths_distinct_iff`): where it holds,
the references with the path have one key, and there is one of them; where
it does not, a unit that gives the path with slashes and with backslashes
keeps both.

The paths are those that are read in the text of the file, not those that
were written to it.
-/

set_option autoImplicit false

namespace IdeProjects

open Markup (backslashed)

variable {base : Location}

namespace Markup

/-- The text of an element; a group has none. -/
def Element.text : Element → String
  | .leaf _ _ text => text
  | .group _ _ _ => ""

/-- The paths of libraries in a text that can be read, in their order. -/
def hintPaths? (text : String) : Option (List String) :=
  (read? text).map fun e => (e.named "HintPath").map Element.text

end Markup

/-! ### The paths in a project file -/

namespace Project

open Markup

/-- The hint paths of a project file are those of its references. No other
part of the tree has an element of that name. -/
theorem named_hintPath (u : ResolvedUnit base) (o : RenderOptions) :
    (element u o).named "HintPath" = (selectReferences o.referenceCollisions u.references).map
      fun r => .leaf "HintPath" [] (backslashed r.path) := by
  have hproperties : (settings o).filter (·.1 = "HintPath") = [] := by
    rw [settings]
    split <;> simp
  have hidentity : (identity u.name u.defines).filter (·.1 = "HintPath") = [] := by
    simp [identity]
  have hreference : ∀ r : LibraryReference base, (referenceElement r).named "HintPath" =
      [.leaf "HintPath" [] (backslashed r.path)] := fun r => by
    simp [referenceElement, Element.named, Element.namedIn]
  have hsource : ∀ path, (sourceElement path).named "HintPath" = [] := fun path => by
    simp [sourceElement, Element.named]
  have hproject : ∀ n, (projectReferenceElement n).named "HintPath" = [] := fun n => by
    simp [projectReferenceElement, Element.named, Element.namedIn]
  have hgroup : "HintPath" ≠ "ItemGroup" ∧ "HintPath" ≠ "PropertyGroup" := by decide
  rw [element, Element.named_group_of_ne (by decide)]
  simp only [List.flatMap_append, List.flatMap_cons, List.flatMap_nil, List.append_nil,
    named_itemGroupElements hgroup.1, named_propertyGroupElement hgroup.2, hproperties, hidentity,
    List.map_nil, List.nil_append, List.flatMap_map, hreference, hsource, hproject]
  simp [List.map_eq_flatMap]

/-- Read back, a project file lists the paths of its references with
backslashes. -/
theorem hintPaths?_projectText (u : ResolvedUnit base) (o : RenderOptions) :
    hintPaths? (u.projectText o) = some ((selectReferences o.referenceCollisions u.references).map
      fun r => backslashed r.path) := by
  rw [hintPaths?, read?_projectText, Option.map_some, named_hintPath, List.map_map]
  rfl

end Project

/-! ### References with one path in the file -/

/-- Where the slashes of a path do not matter, a unit has one reference at
most that is listed with it. -/
theorem count_backslashed_le_one (u : CompilationUnit) (discovered : List (LibraryReference base))
    {p : String} (h : SlashesAlike p) :
    ((u.resolve discovered).references.map fun r => backslashed r.path).count (backslashed p) ≤ 1 :=
  count_map_le_one (isMerge_resolve u discovered).once fun _ _ _ _ hr hs =>
    (key_eq_of_slashesAlike h hr).trans (key_eq_of_slashesAlike h hs).symm

/-- Two paths with different keys, and nothing that is discovered, are
resolved to both. -/
theorem references_resolve_pair {p q : String}
    (h : (⟨p⟩ : LibraryReference base).key ≠ (⟨q⟩ : LibraryReference base).key) (name : String) :
    (({ name, references := [p, q] } : CompilationUnit).resolve
      ([] : List (LibraryReference base))).references = [⟨p⟩, ⟨q⟩] := by
  rw [CompilationUnit.resolve, mergeReferences, List.mergeSort_nil, ReferenceSet.toList_addAll,
    ReferenceSet.ofList, ReferenceSet.toList_addAll, ReferenceSet.empty]
  simp [putKeyed, h]

/-- The paths of a resolved unit are its own and the discovered ones. -/
theorem path_of_mem_resolve {u : CompilationUnit} {discovered : List (LibraryReference base)}
    {r : LibraryReference base} (hr : r ∈ (u.resolve discovered).references) :
    r.path ∈ u.references ∨ r ∈ discovered := by
  have hmerge := isMerge_resolve u discovered
  by_cases hfound : r.key ∈ discovered.map (·.key)
  · exact Or.inr (hmerge.foundPath r hr hfound).1
  · have hown := List.mem_of_find?_eq_some (hmerge.ownPath r hr hfound)
    obtain ⟨path, hpath, rfl⟩ := List.mem_map.mp (List.mem_reverse.mp hown)
    exact Or.inl hpath

/-! ### Paths that are listed once -/

/-- No project file that keeps all references lists the path `hint` twice. -/
def ListedOnce (base : Location) (hint : String) : Prop :=
  ∀ (u : CompilationUnit) (discovered : List (LibraryReference base)) (o : RenderOptions),
    o.referenceCollisions = .keep →
      ∃ hints, Markup.hintPaths? ((u.resolve discovered).projectText o) = some hints ∧
        hints.count hint ≤ 1

/-- A path is listed once exactly if its slashes do not matter. -/
theorem listedOnce_iff (p : String) : ListedOnce base (backslashed p) ↔ SlashesAlike p := by
  constructor
  · intro honce
    by_contra hnot
    -- A unit gives the path with slashes and with backslashes, and keeps both.
    obtain ⟨hints, hhints, hcount⟩ := honce { name := "App", references := [_, _] } [] {} rfl
    rw [Project.hintPaths?_projectText, selectReferences,
      references_resolve_pair (key_ne_of_not_slashesAlike hnot)] at hhints
    cases hhints
    simp [backslashed_slashed, backslashed_backslashed] at hcount
  · intro halike u discovered o hkeep
    refine ⟨_, Project.hintPaths?_projectText _ o, ?_⟩
    rw [hkeep]
    exact count_backslashed_le_one u discovered halike

/-- A path is listed once in all project files, and all its spellings with
other slashes are one library, exactly if the slashes do not matter. Where
they do not matter in any path of a unit and of the discovered libraries,
the project file lists no path twice. -/
theorem hintPaths_distinct_iff (base : Location) :
    (∀ p, (ListedOnce base (backslashed p) ↔ SlashesAlike p) ∧
      ((∀ q, backslashed q = backslashed p →
        (⟨q⟩ : LibraryReference base).key = (⟨p⟩ : LibraryReference base).key) ↔
          SlashesAlike p)) ∧
    ∀ (u : CompilationUnit) (discovered : List (LibraryReference base)) (o : RenderOptions),
      o.referenceCollisions = .keep →
      (∀ p, p ∈ u.references ∨ p ∈ discovered.map (·.path) → SlashesAlike p) →
      ∃ hints, Markup.hintPaths? ((u.resolve discovered).projectText o) = some hints ∧
        hints.Nodup := by
  refine ⟨fun p => ⟨listedOnce_iff p, key_eq_iff_slashesAlike p⟩, ?_⟩
  intro u discovered o hkeep halike
  refine ⟨_, Project.hintPaths?_projectText _ o, ?_⟩
  rw [hkeep, selectReferences]
  -- A path that is listed is that of a reference, and so one of the given paths.
  refine List.nodup_iff_count_le_one.mpr fun hint => ?_
  by_cases hmem : hint ∈ (u.resolve discovered).references.map fun r => backslashed r.path
  · obtain ⟨r, hr, rfl⟩ := List.mem_map.mp hmem
    refine count_backslashed_le_one u discovered (halike r.path ?_)
    exact (path_of_mem_resolve hr).imp_right List.mem_map_of_mem
  · rw [List.count_eq_zero_of_not_mem hmem]
    exact Nat.zero_le 1

/-- The first library is given and found with either slash, and is listed
once. All paths have separators of one kind where it matters. -/
theorem hintPaths_distinct_either_slash :
    let u : CompilationUnit := { name := "App", references := ["lib/A.dll", "lib\\A.dll"] }
    let discovered : List (LibraryReference ["w"]) := [⟨"lib\\A.dll"⟩, ⟨"lib\\B.dll"⟩]
    ListedOnce ["w"] "lib\\A.dll" ∧
      ∃ hints, Markup.hintPaths? ((u.resolve discovered).projectText {}) = some hints ∧
        hints.Nodup := by
  intro u discovered
  have halike : ∀ p ∈ ["lib/A.dll", "lib\\A.dll", "lib\\B.dll"], SlashesAlike p := by decide
  refine ⟨((hintPaths_distinct_iff ["w"]).1 "lib/A.dll").1.mpr (halike _ (by simp)), ?_⟩
  refine (hintPaths_distinct_iff ["w"]).2 u discovered {} rfl fun p hp => halike p ?_
  simp only [u, discovered, List.map_cons, List.map_nil, List.mem_cons, List.not_mem_nil] at hp ⊢
  tauto

/-- Behind a dot the slash matters: both spellings are listed, and as one
path. -/
theorem hintPaths_not_distinct_dot :
    let u : CompilationUnit := { name := "App", references := ["./Foo.dll", ".\\Foo.dll"] }
    let text := (u.resolve ([] : List (LibraryReference ["vroot", "proj"]))).projectText {}
    Markup.hintPaths? text = some [".\\Foo.dll", ".\\Foo.dll"] ∧
      ¬ ∃ hints, Markup.hintPaths? text = some hints ∧ hints.Nodup := by
  intro u text
  have hkeys : (⟨"./Foo.dll"⟩ : LibraryReference ["vroot", "proj"]).key ≠
      (⟨".\\Foo.dll"⟩ : LibraryReference ["vroot", "proj"]).key := by decide +kernel
  have htwice : Markup.hintPaths? text = some [".\\Foo.dll", ".\\Foo.dll"] := by
    rw [Project.hintPaths?_projectText, selectReferences, references_resolve_pair hkeys]
    rfl
  refine ⟨htwice, ?_⟩
  rintro ⟨hints, hhints, hnodup⟩
  rw [htwice] at hhints
  cases hhints
  exact absurd hnodup (by decide)

end IdeProjects
