import IdeProjects.Descriptor.Project
import IdeProjects.Proofs.Descriptor.Reader
import IdeProjects.Proofs.Guid

/-!
# `IdeProjects.Proofs.Descriptor.Project`: a project file can be read back

`Project.element` is what a project file says: the values of the unit and
of the settings as they are, each in its place in the tree, and nothing
else. Reading the text of a project file gives that tree
(`read_projectText`), whatever characters the values hold; so a value
neither ends early nor adds an element, and two units with one text have
the same values. The values are texts of characters: they and the text of
the file have an encoding in UTF-8.

Each function that writes lines has one lemma about what its lines yield,
and the lemmas are put together as the functions are.
-/

set_option autoImplicit false

namespace IdeProjects

namespace Project

open Markup

variable {base : Location}

/-! ### What a project file says -/

/-- The properties that the settings decide; the project types only if
there are some. -/
def settings (o : RenderOptions) : List (String × String) :=
  [("TargetFramework", o.targetFramework),
    ("OutputType", "Library"),
    ("OutputPath", o.outputPath),
    ("LangVersion", o.langVersion),
    ("AllowUnsafeBlocks", if o.allowUnsafeBlocks then "true" else "false"),
    ("EnableDefaultCompileItems", "false"),
    ("EnableDefaultEmbeddedResourceItems", "false")] ++
  if o.projectTypeGuids.isEmpty then []
  else [("ProjectTypeGuids", ";".intercalate o.projectTypeGuids)]

/-- The properties of the unit itself. -/
def identity (name : String) (defines : List String) : List (String × String) :=
  [("ProjectGuid", Guid.braced name),
    ("AssemblyName", name),
    ("RootNamespace", name),
    ("DefineConstants", ";".intercalate defines)]

/-- A group of properties, by their names and values. -/
def propertyGroupElement (properties : List (String × String)) : Element :=
  .group "PropertyGroup" [] (properties.map fun p => .leaf p.1 [] p.2)

/-- A group of items; none for no items. -/
def itemGroupElements (items : List Element) : List Element :=
  if items.isEmpty then [] else [.group "ItemGroup" [] items]

/-- A library: its display name and where it lies. -/
def referenceElement (r : LibraryReference base) : Element :=
  .group "Reference" [r.displayName] [.leaf "HintPath" [] (backslashed r.path)]

/-- A source file. -/
def sourceElement (path : String) : Element := .leaf "Compile" [backslashed path] ""

/-- Another unit: its project file, its identifier and its name. -/
def projectReferenceElement (name : String) : Element :=
  .group "ProjectReference" [projectFileName name]
    [.leaf "Project" [] (Guid.braced name), .leaf "Name" [] name]

/-- What the project file of a unit says. -/
def element (u : ResolvedUnit base) (o : RenderOptions) : Element :=
  .group "Project" ["Microsoft.NET.Sdk"]
    ([propertyGroupElement (settings o), propertyGroupElement (identity u.name u.defines)] ++
      itemGroupElements
        ((selectReferences o.referenceCollisions u.references).map referenceElement) ++
      itemGroupElements (u.sourceFiles.map sourceElement) ++
      itemGroupElements (u.projectReferences.map projectReferenceElement))

/-! ### Properties -/

/-- A leaf on a line of its own. -/
theorem yields_leaf {line name value : String} (width : Nat) (hname : isName name = true)
    (hline : line.toList = List.replicate width ' ' ++ ('<' :: (name.toList ++ ['>']) ++
      ((escape value).toList ++ '<' :: '/' :: (name.toList ++ ['>'])))) :
    Yields [line] [.leaf name [] value] :=
  .line width hline (.leaf (.name hname) (.closing hname) value)

/-- A property is a leaf with the value as its text. -/
theorem yields_property {name : String} (hname : isName name = true) (value : String) :
    Yields [property name (escape value)] [.leaf name [] value] :=
  yields_leaf 4 hname (by simp [property, List.replicate])

/-- The lines of a group of properties. -/
def propertyGroupLines (properties : List (String × String)) : List String :=
  "  <PropertyGroup>" ::
    (properties.map (fun p => property p.1 (escape p.2)) ++ ["  </PropertyGroup>"])

/-- Properties in a row are leaves in a row. -/
theorem yields_properties {properties : List (String × String)}
    (hnames : properties.all (fun p => isName p.1) = true) :
    Yields (properties.map fun p => property p.1 (escape p.2))
      (properties.map fun p => .leaf p.1 [] p.2) := by
  induction properties with
  | nil => exact .nil
  | cons p rest ih =>
      rw [List.all_cons, Bool.and_eq_true] at hnames
      exact (yields_property hnames.1 p.2).append (ih hnames.2)

/-- A group of properties is one element with a leaf for each; it may not be
empty, for then it would be a leaf itself. -/
theorem yields_propertyGroupLines {properties : List (String × String)} (hne : properties ≠ [])
    (hnames : properties.all (fun p => isName p.1) = true) :
    Yields (propertyGroupLines properties) [propertyGroupElement properties] := by
  have hname : isName "PropertyGroup" = true := by decide
  exact .group 2 (by decide) (by decide) (.name hname) (.closing hname) (by simpa using hne)
    (yields_properties hnames)

/-- The constants among the settings have nothing to escape. -/
theorem settingLines_eq (o : RenderOptions) :
    settingLines o = propertyGroupLines (settings o) := by
  have hlibrary : escape "Library" = "Library" := by decide
  have htrue : escape "true" = "true" := by decide
  have hfalse : escape "false" = "false" := by decide
  have hunsafe : escape (if o.allowUnsafeBlocks then "true" else "false") =
      if o.allowUnsafeBlocks then "true" else "false" := by
    split <;> assumption
  by_cases htypes : o.projectTypeGuids.isEmpty <;>
    simp [settingLines, propertyGroupLines, settings, htypes, hlibrary, hfalse, hunsafe]

/-- The names of the settings are names of elements. -/
theorem isName_settings (o : RenderOptions) :
    (settings o).all (fun p => isName p.1) = true := by
  rw [settings, List.all_append, Bool.and_eq_true]
  constructor
  · simp only [List.all_cons, List.all_nil]
    decide
  · split <;> simp only [List.all_cons, List.all_nil]
    decide

/-- An identifier is written as it is. -/
theorem escape_braced (name : String) : escape (Guid.braced name) = Guid.braced name := by
  refine escape_eq_self fun c hc hspecial => ?_
  have halphabet := Guid.mem_braced hc
  simp only [special, List.mem_cons, List.not_mem_nil, or_false] at hspecial
  rcases hspecial with rfl | rfl | rfl | rfl | rfl <;> exact absurd halphabet (by decide)

/-- The lines of the unit itself are those of a group of properties. -/
theorem identityLines_eq (name : String) (defines : List String) :
    identityLines name defines = propertyGroupLines (identity name defines) := by
  simp [identityLines, propertyGroupLines, identity, escape_braced]

/-- The names in it are names of elements. -/
theorem isName_identity (name : String) (defines : List String) :
    (identity name defines).all (fun p => isName p.1) = true := by
  simp only [identity, List.all_cons, List.all_nil]
  decide

/-! ### Items -/

/-- Lines with elements between the lines of an item that has a value. -/
theorem yields_item {name start last : String} {ls : List String} {es : List Element}
    (value : String) (hname : isName name = true)
    (hstart : start.toList = List.replicate 4 ' ' ++ '<' :: (name.toList ++ " Include=\"".toList))
    (hlast : last.toList = List.replicate 4 ' ' ++ '<' :: '/' :: (name.toList ++ ['>']))
    (hes : es ≠ []) (h : Yields ls es) :
    Yields ((start ++ escape value ++ "\">") :: (ls ++ [last])) [.group name [value] es] := by
  have hfield : isName "Include" = true := by decide
  refine .group 4 ?_ hlast (.field hname hfield value) (.closing hname) hes h
  simp [hstart, attributeChars]

/-- A library: the display name is an attribute, the path a text. -/
theorem yields_referenceLines (r : LibraryReference base) :
    Yields (referenceLines r) [referenceElement r] := by
  have hname : isName "Reference" = true := by decide
  have hpath : Yields ["      <HintPath>" ++ escape (backslashed r.path) ++ "</HintPath>"]
      [.leaf "HintPath" [] (backslashed r.path)] :=
    yields_leaf 6 (by decide) (by simp [List.replicate])
  have hstart : "    <Reference Include=\"".toList =
      List.replicate 4 ' ' ++ '<' :: ("Reference".toList ++ " Include=\"".toList) := by decide
  have hlast : "    </Reference>".toList =
      List.replicate 4 ' ' ++ '<' :: '/' :: ("Reference".toList ++ ['>']) := by decide
  exact (yields_item r.displayName hname hstart hlast (by simp) hpath :)

/-- A source file is an attribute of an element by itself. -/
theorem yields_sourceLine (path : String) : Yields [sourceLine path] [sourceElement path] := by
  have hname : isName "Compile" = true := by decide
  have hfield : isName "Include" = true := by decide
  have hline : (sourceLine path).toList = List.replicate 4 ' ' ++
      '<' :: (attributeChars "Compile" "Include" (backslashed path) [' ', '/'] ++ ['>']) := by
    unfold sourceLine attributeChars
    -- The texts around the value are compared, whatever the value is.
    generalize escape (backslashed path) = written
    simp [List.replicate]
  exact .line 4 hline (.single (.single hname hfield (backslashed path)))

/-- Another unit: its file is an attribute, its identifier and its name are
texts. -/
theorem yields_projectReferenceLines (name : String) :
    Yields (projectReferenceLines name) [projectReferenceElement name] := by
  have hname : isName "ProjectReference" = true := by decide
  have hguid : Yields ["      <Project>" ++ Guid.braced name ++ "</Project>"]
      [.leaf "Project" [] (Guid.braced name)] :=
    yields_leaf 6 (by decide) (by simp [List.replicate, escape_braced])
  have hunit : Yields ["      <Name>" ++ escape name ++ "</Name>"] [.leaf "Name" [] name] :=
    yields_leaf 6 (by decide) (by simp [List.replicate])
  have hstart : "    <ProjectReference Include=\"".toList =
      List.replicate 4 ' ' ++ '<' :: ("ProjectReference".toList ++ " Include=\"".toList) := by
    decide
  have hlast : "    </ProjectReference>".toList =
      List.replicate 4 ' ' ++ '<' :: '/' :: ("ProjectReference".toList ++ ['>']) := by decide
  exact (yields_item (projectFileName name) hname hstart hlast (by simp) (hguid.append hunit) :)

/-- The lines of items are a group, and no items are no lines. -/
theorem yields_itemGroup {α : Type} {ls : α → List String} {e : α → Element}
    (hls : ∀ x, ls x ≠ []) (h : ∀ x, Yields (ls x) [e x]) (xs : List α) :
    Yields (itemGroup (xs.flatMap ls)) (itemGroupElements (xs.map e)) := by
  cases xs with
  | nil => exact .nil
  | cons x rest =>
      have hname : isName "ItemGroup" = true := by decide
      have hne : (x :: rest).flatMap ls ≠ [] := by simp [hls x]
      rw [itemGroup, if_neg (by simpa using hne), itemGroupElements, if_neg (by simp)]
      exact .group 2 (by decide) (by decide) (.name hname) (.closing hname) (by simp)
        (Yields.flatMap h _)

/-! ### The file -/

/-- What stands between the tags of the whole. -/
theorem lines_eq (u : ResolvedUnit base) (o : RenderOptions) :
    lines u o = "<Project Sdk=\"Microsoft.NET.Sdk\">" ::
      ((settingLines o ++ (identityLines u.name u.defines ++
        (itemGroup ((selectReferences o.referenceCollisions u.references).flatMap referenceLines) ++
        (itemGroup (u.sourceFiles.flatMap fun path => [sourceLine path]) ++
        itemGroup (u.projectReferences.flatMap projectReferenceLines))))) ++ ["</Project>"]) := by
  simp only [lines, List.cons_append, List.append_assoc, List.map_eq_flatMap]

/-- The lines of a project file yield what it says. The five groups of lines
yield their elements one after the other, and the first and the last line put
them in one element. -/
theorem yields_lines (u : ResolvedUnit base) (o : RenderOptions) :
    Yields (lines u o) [element u o] := by
  have hname : isName "Project" = true := by decide
  have hfield : isName "Sdk" = true := by decide
  -- The groups in the order of the document, then the lines around them.
  have hsettings : Yields (settingLines o) [propertyGroupElement (settings o)] := by
    rw [settingLines_eq]
    exact yields_propertyGroupLines (by simp [settings]) (isName_settings o)
  have hidentity : Yields (identityLines u.name u.defines)
      [propertyGroupElement (identity u.name u.defines)] := by
    rw [identityLines_eq]
    exact yields_propertyGroupLines (by simp [identity]) (isName_identity _ _)
  have hreferences := yields_itemGroup (by simp [referenceLines]) yields_referenceLines
    (selectReferences o.referenceCollisions u.references)
  have hsources := yields_itemGroup (by simp) yields_sourceLine u.sourceFiles
  have hprojects := yields_itemGroup (by simp [projectReferenceLines])
    yields_projectReferenceLines u.projectReferences
  have hfirst : "<Project Sdk=\"Microsoft.NET.Sdk\">".toList = List.replicate 0 ' ' ++
      '<' :: (attributeChars "Project" "Sdk" "Microsoft.NET.Sdk" [] ++ ['>']) := by decide
  have hlast : "</Project>".toList =
      List.replicate 0 ' ' ++ '<' :: '/' :: ("Project".toList ++ ['>']) := by decide
  have hgroup := Yields.group 0 hfirst hlast (.field hname hfield "Microsoft.NET.Sdk")
    (.closing hname) (by simp)
    (hsettings.append (hidentity.append (hreferences.append (hsources.append hprojects))))
  rw [lines_eq, element]
  simpa only [List.cons_append, List.nil_append, List.append_assoc] using hgroup

/-- A unit has the same text with other references only if the lines for the
references are the same. -/
theorem referenceLines_of_projectText_eq {u : ResolvedUnit base}
    {references : List (LibraryReference base)} {o : RenderOptions}
    (h : u.projectText o = ({ u with references } : ResolvedUnit base).projectText o) :
    (itemGroup ((selectReferences o.referenceCollisions u.references).flatMap
      referenceLines)).flatMap (fun l => l.toList ++ ['\n']) =
    (itemGroup ((selectReferences o.referenceCollisions references).flatMap
      referenceLines)).flatMap fun l => l.toList ++ ['\n'] := by
  have hchars := congrArg String.toList h
  rw [ResolvedUnit.projectText, ResolvedUnit.projectText, Text.toList_unlines (by simp [lines]),
    Text.toList_unlines (by simp [lines]), lines_eq, lines_eq] at hchars
  simp only [List.flatMap_cons, List.flatMap_append, List.append_cancel_left_eq,
    List.append_cancel_right_eq] at hchars
  exact hchars

/-- The text of a project file is read as the element of its unit. -/
theorem read?_projectText (u : ResolvedUnit base) (o : RenderOptions) :
    read? (u.projectText o) = some (element u o) :=
  read?_unlines (by simp [lines]) (yields_lines u o)

end Project

/-- Reading a project file gives what it is made of, whatever characters the
unit and the settings hold. -/
theorem read_projectText {base : Location} (u : ResolvedUnit base) (o : RenderOptions) :
    Markup.read? (u.projectText o) = some (Project.element u o) :=
  Project.read?_projectText u o

end IdeProjects
