import IdeProjects.Descriptor.Collisions
import IdeProjects.Descriptor.Markup
import IdeProjects.Guid
import IdeProjects.Unit.Resolved

/-!
# `IdeProjects.Descriptor.Project`: project files

The project file of a unit: two groups of properties, then one group of
items each for the libraries, the source files and the other units, in
that order. A group without items is left out. Every value is escaped,
and paths are written with backslashes.
-/

set_option autoImplicit false

namespace IdeProjects

namespace Project

open Markup

/-- A property on a line of its own, its value given as it is written. -/
def property (name value : String) : String :=
  "    <" ++ name ++ ">" ++ value ++ "</" ++ name ++ ">"

/-- The properties that the settings decide. -/
def settingLines (o : RenderOptions) : List String :=
  ["  <PropertyGroup>",
    property "TargetFramework" (escape o.targetFramework),
    property "OutputType" "Library",
    property "OutputPath" (escape o.outputPath),
    property "LangVersion" (escape o.langVersion),
    property "AllowUnsafeBlocks" (if o.allowUnsafeBlocks then "true" else "false"),
    property "EnableDefaultCompileItems" "false",
    property "EnableDefaultEmbeddedResourceItems" "false"] ++
  (if o.projectTypeGuids.isEmpty then []
    else [property "ProjectTypeGuids" (escape (";".intercalate o.projectTypeGuids))]) ++
  ["  </PropertyGroup>"]

/-- The properties of the unit itself. -/
def identityLines (name : String) (defines : List String) : List String := [
  "  <PropertyGroup>",
  property "ProjectGuid" (Guid.braced name),
  property "AssemblyName" (escape name),
  property "RootNamespace" (escape name),
  property "DefineConstants" (escape (";".intercalate defines)),
  "  </PropertyGroup>"]

/-- A group of items; none for no items. -/
def itemGroup (lines : List String) : List String :=
  if lines.isEmpty then []
  else "  <ItemGroup>" :: lines ++ ["  </ItemGroup>"]

/-- A library: its display name and where it lies. -/
def referenceLines {base : Location} (r : LibraryReference base) : List String := [
  "    <Reference Include=\"" ++ escape r.displayName ++ "\">",
  "      <HintPath>" ++ escape (backslashed r.path) ++ "</HintPath>",
  "    </Reference>"]

/-- A source file. -/
def sourceLine (path : String) : String :=
  "    <Compile Include=\"" ++ escape (backslashed path) ++ "\" />"

/-- Another unit: its project file, its identifier and its name. -/
def projectReferenceLines (name : String) : List String := [
  "    <ProjectReference Include=\"" ++ escape (projectFileName name) ++ "\">",
  "      <Project>" ++ Guid.braced name ++ "</Project>",
  "      <Name>" ++ escape name ++ "</Name>",
  "    </ProjectReference>"]

/-- The lines of a project file. -/
def lines {base : Location} (u : ResolvedUnit base) (o : RenderOptions) :
    List String :=
  "<Project Sdk=\"Microsoft.NET.Sdk\">" ::
    settingLines o ++
    identityLines u.name u.defines ++
    itemGroup ((selectReferences o.referenceCollisions u.references).flatMap
      referenceLines) ++
    itemGroup (u.sourceFiles.map sourceLine) ++
    itemGroup (u.projectReferences.flatMap projectReferenceLines) ++
    ["</Project>"]

end Project

/-- The text of the project file of a unit. -/
def ResolvedUnit.projectText {base : Location} (u : ResolvedUnit base)
    (o : RenderOptions) : String :=
  "\n".intercalate (Project.lines u o) ++ "\n"

end IdeProjects
