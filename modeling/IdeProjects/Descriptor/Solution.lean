import IdeProjects.Config.Options
import IdeProjects.Guid
import IdeProjects.Unit.Basic

/-!
# `IdeProjects.Descriptor.Solution`: the solution file

The solution lists every project once, in the order of first occurrence
of its name, and says for each how the two configurations are built.
Names are written as they are: the format has no escapes.
-/

set_option autoImplicit false

namespace IdeProjects

namespace Solution

/-- The names that get an entry: each once, and the empty name not. -/
def names (all : List String) : List String := distinct (all.filter (· ≠ ""))

/-- The configurations of every project. -/
def configurations : List String := ["Debug|Any CPU", "Release|Any CPU"]

/-- The entry of a project. -/
def entryLines (name : String) : List String := [
  "Project(\"" ++ csharpProjectType ++ "\") = \"" ++ name ++ "\", \"" ++
    projectFileName name ++ "\", \"" ++ Guid.braced name ++ "\"",
  "EndProject"]

/-- The lines that say how a project is built in each configuration. -/
def buildLines (name : String) : List String :=
  configurations.flatMap fun pair => [
    "\t\t" ++ Guid.braced name ++ "." ++ pair ++ ".ActiveCfg = " ++ pair,
    "\t\t" ++ Guid.braced name ++ "." ++ pair ++ ".Build.0 = " ++ pair]

/-- The lines of a solution, for names without repeats. -/
def lines (names : List String) : List String :=
  ["Microsoft Visual Studio Solution File, Format Version 12.00",
    "# Visual Studio 15"] ++
  names.flatMap entryLines ++
  ["Global",
    "\tGlobalSection(SolutionConfigurationPlatforms) = preSolution"] ++
  configurations.map (fun pair => "\t\t" ++ pair ++ " = " ++ pair) ++
  ["\tEndGlobalSection",
    "\tGlobalSection(ProjectConfigurationPlatforms) = postSolution"] ++
  names.flatMap buildLines ++
  ["\tEndGlobalSection", "EndGlobal"]

end Solution

/-- The text of the solution file of units given by their names. -/
def solutionText (all : List String) : String :=
  "\n".intercalate (Solution.lines (Solution.names all)) ++ "\n"

end IdeProjects
