import IdeProjects.Descriptor.Solution
import IdeProjects.Proofs.Guid
import IdeProjects.Proofs.Text.Cut
import IdeProjects.Proofs.Unit.FileNames

/-!
# `IdeProjects.Proofs.Descriptor.Solution`: when a solution can be read back

A solution is read line by line, and the values of a project's entry are
what stands between double quotes. `Solution.ReadsBack` says that this gives
every project its entry and its values, and nothing more.

Names are written as they are, and of the characters in a name sifting
refuses the slashes alone. So a kept name may hold a double quote, which
cuts its own values short, or a line feed, which cuts its entry in two and
can even start another entry. Those are the only two ways:
`solutionText_readsBack_iff` says that the solution of kept units can be
read back exactly if no name holds either character.
-/

set_option autoImplicit false

namespace IdeProjects

namespace Solution

/-! ### What reading should give -/

/-- The line that names a project. -/
def projectLine (name : String) : String :=
  "Project(\"" ++ csharpProjectType ++ "\") = \"" ++ name ++ "\", \"" ++ (name ++ ".csproj") ++
    "\", \"" ++ Guid.braced name ++ "\""

/-- The four lines that map the configurations of a project. -/
def mappingLines (name : String) : List String := [
  "\t\t" ++ Guid.braced name ++ ".Debug|Any CPU.ActiveCfg = Debug|Any CPU",
  "\t\t" ++ Guid.braced name ++ ".Debug|Any CPU.Build.0 = Debug|Any CPU",
  "\t\t" ++ Guid.braced name ++ ".Release|Any CPU.ActiveCfg = Release|Any CPU",
  "\t\t" ++ Guid.braced name ++ ".Release|Any CPU.Build.0 = Release|Any CPU"]

/-- The values of a line: what stands between its double quotes. -/
def quotedFields (line : String) : List String :=
  (Text.betweenQuotes line.toList).map String.ofList

/-- The lines of a solution with these projects, up to the end of the
text. -/
def expectedLines (names : List String) : List String :=
  ["Microsoft Visual Studio Solution File, Format Version 12.00", "# Visual Studio 15"] ++
  names.flatMap (fun n => [projectLine n, "EndProject"]) ++
  ["Global",
    "\tGlobalSection(SolutionConfigurationPlatforms) = preSolution",
    "\t\tDebug|Any CPU = Debug|Any CPU",
    "\t\tRelease|Any CPU = Release|Any CPU",
    "\tEndGlobalSection",
    "\tGlobalSection(ProjectConfigurationPlatforms) = postSolution"] ++
  names.flatMap mappingLines ++
  ["\tEndGlobalSection", "EndGlobal", ""]

/-- The text lists the projects with these names: each has one entry with
its values and four mappings, and nothing else is there. -/
structure ReadsBack (names : List String) (text : String) : Prop where
  lines : Text.linesOf text = expectedLines names
  fields : ∀ n ∈ names,
    quotedFields (projectLine n) = [csharpProjectType, n, n ++ ".csproj", Guid.braced n]

/-! ### Values between quotes -/

/-- The values of a project's line are the right ones exactly if its name
holds no double quote. -/
theorem quotedFields_projectLine_iff (n : String) :
    quotedFields (projectLine n) = [csharpProjectType, n, n ++ ".csproj", Guid.braced n] ↔
      '"' ∉ n.toList := by
  constructor
  · -- The name would be one of the values, and no value holds a quote.
    intro hfields hquote
    have hmem : n ∈ quotedFields (projectLine n) := by simp [hfields]
    obtain ⟨inner, hinner, rfl⟩ := List.mem_map.mp hmem
    rw [String.toList_ofList] at hquote
    exact Text.not_mem_of_mem_betweenQuotes hinner hquote
  · intro hquote
    have htype : '"' ∉ csharpProjectType.toList := by decide
    have hfile : '"' ∉ (n ++ ".csproj").toList := by simpa using hquote
    have hguid : '"' ∉ (Guid.braced n).toList := Guid.not_mem_braced (by decide) n
    have hline : (projectLine n).toList = "Project(".toList ++ '"' :: (csharpProjectType.toList ++
        '"' :: (") = ".toList ++ '"' :: (n.toList ++ '"' :: (", ".toList ++
        '"' :: ((n ++ ".csproj").toList ++ '"' :: (", ".toList ++
        '"' :: ((Guid.braced n).toList ++ '"' :: []))))))) := by
      unfold projectLine
      -- Only the texts between the values are looked into.
      generalize Guid.braced n = guid, csharpProjectType = type
      simp
    rw [quotedFields, hline, Text.betweenQuotes_append (by decide) htype,
      Text.betweenQuotes_append (by decide) hquote, Text.betweenQuotes_append (by decide) hfile,
      Text.betweenQuotes_append (by decide) hguid, Text.betweenQuotes_of_not_mem (by simp)]
    simp

/-! ### Lines -/

/-- The entry of a project is its line and the end of it. -/
theorem entryLines_eq (name : String) : entryLines name = [projectLine name, "EndProject"] := rfl

/-- The mappings of a project are the lines of its identifier. -/
theorem buildLines_eq (name : String) : buildLines name = mappingLines name := by
  simp [buildLines, mappingLines, configurations, String.append_assoc]

/-- The lines of a solution are the expected ones, up to the empty text after
the last line feed. -/
theorem lines_append (names : List String) :
    Solution.lines names ++ [""] = expectedLines names := by
  rw [lines, expectedLines, funext entryLines_eq, funext buildLines_eq]
  simp [configurations]

/-- The line of a project is one line exactly if the name has no line feed,
for nothing is escaped in it. -/
theorem feed_not_mem_projectLine_iff (n : String) :
    '\n' ∉ (projectLine n).toList ↔ '\n' ∉ n.toList := by
  have hguid : '\n' ∉ (Guid.braced n).toList := Guid.not_mem_braced (by decide) n
  have htype : '\n' ∉ csharpProjectType.toList := by decide
  unfold projectLine
  generalize Guid.braced n = guid, csharpProjectType = type at *
  simp [hguid, htype]

/-- The mappings name a project by its identifier, so they are single lines
whatever its name is. -/
theorem feed_not_mem_mappingLines (n : String) : ∀ l ∈ mappingLines n, '\n' ∉ l.toList := by
  have hguid : '\n' ∉ (Guid.braced n).toList := Guid.not_mem_braced (by decide) n
  unfold mappingLines
  generalize Guid.braced n = guid at *
  simp [hguid]

/-- A line feed gets into the lines by a name alone. -/
theorem feed_not_mem_lines_iff (names : List String) :
    (∀ l ∈ Solution.lines names, '\n' ∉ l.toList) ↔ ∀ n ∈ names, '\n' ∉ n.toList := by
  have hend : (∀ l ∈ Solution.lines names, '\n' ∉ l.toList) ↔
      ∀ l ∈ Solution.lines names ++ [""], '\n' ∉ l.toList := by
    rw [List.forall_mem_append, List.forall_mem_singleton]
    simp
  -- The lines without names hold no line feed, nor do those with identifiers.
  rw [hend, lines_append, expectedLines]
  simp only [List.forall_mem_append, List.forall_mem_flatMap]
  constructor
  · rintro ⟨⟨⟨⟨_, hentries⟩, _⟩, _⟩, _⟩ n hn
    exact (feed_not_mem_projectLine_iff n).mp (hentries n hn _ (by simp))
  · intro hfree
    refine ⟨⟨⟨⟨by decide, fun n hn => ?_⟩, by decide⟩,
      fun n _ => feed_not_mem_mappingLines n⟩, by decide⟩
    rw [List.forall_mem_cons]
    exact ⟨(feed_not_mem_projectLine_iff n).mpr (hfree n hn), by decide⟩

/-- The solution of projects whose names are not empty can be read back
exactly if no name holds a line feed or a double quote. -/
theorem readsBack_iff {all : List String} (hall : ∀ n ∈ all, n ≠ "") :
    ReadsBack (distinct all) (solutionText all) ↔
      ∀ n ∈ all, '\n' ∉ n.toList ∧ '"' ∉ n.toList := by
  have hnames : names all = distinct all := by
    rw [names, List.filter_eq_self.mpr]
    simpa using hall
  have hlines : Text.linesOf (solutionText all) = expectedLines (distinct all) ↔
      ∀ n ∈ all, '\n' ∉ n.toList := by
    rw [solutionText, hnames, ← lines_append, Text.linesOf_unlines_iff (by simp [lines]),
      feed_not_mem_lines_iff]
    simp
  constructor
  · rintro ⟨hback, hfields⟩ n hn
    exact ⟨hlines.mp hback n hn,
      (quotedFields_projectLine_iff n).mp (hfields n (mem_distinct.mpr hn))⟩
  · intro hfree
    refine ⟨hlines.mpr fun n hn => (hfree n hn).1, fun n hn => ?_⟩
    exact (quotedFields_projectLine_iff n).mpr (hfree n (mem_distinct.mp hn)).2

end Solution

/-- The solution of the units that sifting keeps can be read back exactly if
no name holds a line feed or a double quote. -/
theorem solutionText_readsBack_iff (entries : List Snapshot.Entry) :
    let names := (Snapshot.ofEntries entries).units.map (·.name)
    Solution.ReadsBack (distinct names) (solutionText names) ↔
      ∀ n ∈ names, '\n' ∉ n.toList ∧ '"' ∉ n.toList := by
  refine Solution.readsBack_iff fun n hn => ?_
  obtain ⟨u, hu, rfl⟩ := List.mem_map.mp hn
  exact Snapshot.name_ne_empty_of_mem_units hu

/-- Three units, two of one name, with plain names: the solution is read as
the two names in the order of their first units. -/
theorem solutionText_readsBack_two_names :
    let names := (Snapshot.ofEntries
      [.unit { name := "App" }, .unit { name := "Lib" }, .unit { name := "App" }]).units.map (·.name)
    distinct names = ["App", "Lib"] ∧ Solution.ReadsBack (distinct names) (solutionText names) :=
  ⟨by decide, (solutionText_readsBack_iff _).mpr (by decide)⟩

/-- A unit whose name holds a double quote is kept, and its entry in the
solution gives neither its name nor its file. -/
theorem solutionText_not_readsBack_quote :
    let names := (Snapshot.ofEntries [.unit { name := "a\"b" }]).units.map (·.name)
    names = ["a\"b"] ∧ ¬ Solution.ReadsBack (distinct names) (solutionText names) := by
  refine ⟨by decide, fun hback => ?_⟩
  have hfields := hback.fields "a\"b" (by decide)
  exact (Solution.quotedFields_projectLine_iff "a\"b").mp hfields (by decide)

end IdeProjects
