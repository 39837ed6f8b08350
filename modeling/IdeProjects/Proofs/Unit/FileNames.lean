import IdeProjects.Proofs.Lists
import IdeProjects.Sync.Run

/-!
# `IdeProjects.Proofs.Unit.FileNames`: the files that units are given

A kept unit has a plain name, and the name of its project file is that
name with an extension. So the file is one entry of the output
directory: read as a path, the file name leads neither up nor down nor
away (`join_projectFileName`). Different names have different files
(`projectFileName_injective`), and none of them is the solution file
(`projectFileName_ne_solutionFileName`). Units of one name share a file,
and the last of them is the one that counts: `lastNamed?`.
-/

set_option autoImplicit false

namespace IdeProjects

/-! ### Names with an extension -/

/-- Texts that end in different characters are different. -/
theorem ne_of_getLast?_ne {s r : String} (h : s.toList.getLast? ≠ r.toList.getLast?) :
    s ≠ r := by
  rintro rfl
  exact h rfl

/-- The name of a project file ends with the letter of its extension. -/
theorem getLast?_projectFileName (n : String) :
    (projectFileName n).toList.getLast? = some 'j' := by
  simp [projectFileName, List.getLast?_append]

/-- The name of the solution file ends with another one. -/
theorem getLast?_solutionFileName (directory : Location) :
    (solutionFileName directory).toList.getLast? = some 'n' := by
  simp [solutionFileName, List.getLast?_append]

/-- A file has one unit name. -/
theorem projectFileName_injective {n m : String} (h : projectFileName n = projectFileName m) :
    n = m :=
  String.append_left_inj _ |>.mp h

/-- No unit has the file of the solution. -/
theorem projectFileName_ne_solutionFileName (n : String) (directory : Location) :
    projectFileName n ≠ solutionFileName directory := by
  apply ne_of_getLast?_ne
  rw [getLast?_projectFileName, getLast?_solutionFileName]
  decide

/-- No project file is called like the step up. -/
theorem projectFileName_ne_dots (n : String) : projectFileName n ≠ ".." := by
  apply ne_of_getLast?_ne
  rw [getLast?_projectFileName]
  decide

/-- Nor is the solution file. -/
theorem solutionFileName_ne_dots (directory : Location) : solutionFileName directory ≠ ".." := by
  apply ne_of_getLast?_ne
  rw [getLast?_solutionFileName]
  decide

/-- The extension adds no null character. -/
theorem contains_null_projectFileName (n : String) :
    (projectFileName n).toList.contains '\x00' = n.toList.contains '\x00' := by
  simp [projectFileName]

/-! ### Files as entries of a directory -/

/-- Without a slash a text is one stretch. -/
theorem Path.splitSlashes_of_not_mem {cs : List Char} (h : '/' ∉ cs) :
    Path.splitSlashes cs = [cs] := by
  induction cs with
  | nil => rfl
  | cons c rest ih =>
      rw [List.mem_cons, not_or] at h
      rw [Path.splitSlashes, if_neg (Ne.symm h.1), ih h.2]

/-- A text with no slash that carries a meaning is a path of one part. -/
theorem Path.ofText_of_not_mem {s : String} (hslash : '/' ∉ s.toList)
    (hpart : Path.isPart s.toList = true) : Path.ofText s = ⟨.relative, [s]⟩ := by
  have hroot : Root.ofChars s.toList = .relative := by
    cases hs : s.toList with
    | nil => rfl
    | cons c rest =>
        have hc : c ≠ '/' := by
          rintro rfl
          exact hslash (by simp [hs])
        unfold Root.ofChars
        split <;> simp_all
  rw [Path.ofText, hroot, Path.partsOf, Path.splitSlashes_of_not_mem hslash]
  simp [hpart]

/-- The file of a unit whose name has no slash is an entry of the
directory that the path of the file is read from. -/
theorem join_projectFileName {n : String} (h : '/' ∉ n.toList) (out : Path) :
    out.join (Path.ofText (projectFileName n)) = out.child (projectFileName n) := by
  have hslash : '/' ∉ (projectFileName n).toList := by
    simpa [projectFileName] using h
  have hpart : Path.isPart (projectFileName n).toList = true := by
    have hlast := getLast?_projectFileName n
    rw [Path.isPart, Bool.and_eq_true, bne_iff_ne, bne_iff_ne]
    constructor <;> intro heq <;> rw [heq] at hlast <;> simp at hlast
  rw [Path.ofText_of_not_mem hslash hpart]
  rfl

/-! ### Kept units -/

namespace Snapshot

/-- An entry stays if it is a unit whose name is not blank and is plain. The
unit that stays is the one of the entry, unchanged. -/
theorem Entry.sift_eq_ok {entry : Entry} {u : CompilationUnit} :
    entry.sift = .ok u ↔
      entry = .unit u ∧ Text.isBlank u.name = false ∧ isPlainName u.name = true := by
  constructor
  · intro hsift
    cases entry with
    | unit v =>
        simp only [Entry.sift] at hsift
        split at hsift
        · cases hsift
        · rename_i hblank
          split at hsift
          · rename_i hplain
            cases hsift
            exact ⟨rfl, by simpa using hblank, hplain⟩
          · cases hsift
    | _ => cases hsift
  · rintro ⟨rfl, hblank, hplain⟩
    simp [Entry.sift, hblank, hplain]

/-- The kept units are those that stay, in their order. -/
theorem units_ofEntriesFrom (index : Nat) (entries : List Entry) :
    (ofEntriesFrom index entries).units = entries.filterMap fun entry => entry.sift.toOption := by
  induction entries generalizing index with
  | nil => rfl
  | cons entry rest ih =>
      rw [ofEntriesFrom]
      split <;> rename_i hsift <;> simp [hsift, keep, skip, ih, Except.toOption]

/-- The units that are kept are those given with a name that is neither blank
nor a path. -/
theorem mem_units_iff {entries : List Entry} {u : CompilationUnit} :
    u ∈ (ofEntries entries).units ↔
      .unit u ∈ entries ∧ Text.isBlank u.name = false ∧ isPlainName u.name = true := by
  rw [ofEntries, units_ofEntriesFrom, List.mem_filterMap]
  constructor
  · rintro ⟨entry, hentry, hstays⟩
    cases hsift : entry.sift with
    | error reason => simp [hsift, Except.toOption] at hstays
    | ok v =>
        obtain rfl : v = u := by simpa [hsift, Except.toOption] using hstays
        obtain ⟨rfl, hblank, hplain⟩ := Entry.sift_eq_ok.mp hsift
        exact ⟨hentry, hblank, hplain⟩
  · rintro ⟨hentry, hblank, hplain⟩
    have hsift := Entry.sift_eq_ok.mpr ⟨rfl, hblank, hplain⟩
    exact ⟨.unit u, hentry, by rw [hsift]; rfl⟩

/-- The name of a kept unit has no slash. -/
theorem not_mem_slash_of_mem_units {entries : List Entry} {u : CompilationUnit}
    (hu : u ∈ (ofEntries entries).units) : '/' ∉ u.name.toList := by
  have hplain := (mem_units_iff.mp hu).2.2
  simp only [isPlainName, Bool.and_eq_true, Bool.not_eq_true', List.contains_eq_mem,
    decide_eq_false_iff_not] at hplain
  exact hplain.1.1

/-- The name of a kept unit is not empty. -/
theorem name_ne_empty_of_mem_units {entries : List Entry} {u : CompilationUnit}
    (hu : u ∈ (ofEntries entries).units) : u.name ≠ "" := by
  intro hname
  have hblank := (mem_units_iff.mp hu).2.1
  rw [hname] at hblank
  exact absurd hblank (by decide)

end Snapshot

/-- The last unit of a name. -/
def lastNamed? (n : String) (units : List CompilationUnit) : Option CompilationUnit :=
  units.reverse.find? (·.name = n)

/-- A name that a unit has is the name of a last unit, and no later one
has it. -/
theorem lastNamed?_of_mem {n : String} {units : List CompilationUnit}
    (h : n ∈ units.map (·.name)) :
    ∃ before u after, units = before ++ u :: after ∧ u.name = n ∧
      (∀ v ∈ after, v.name ≠ n) ∧ lastNamed? n units = some u := by
  obtain ⟨w, hw, hname⟩ := List.mem_map.mp h
  have hsome : (lastNamed? n units).isSome := by
    rw [lastNamed?, List.find?_isSome]
    exact ⟨w, by simpa using hw, by simpa using hname⟩
  obtain ⟨u, hu⟩ := Option.isSome_iff_exists.mp hsome
  obtain ⟨before, after, hsplit, hself, hlater⟩ := exists_last hu
  exact ⟨before, u, after, hsplit, by simpa using hself, by simpa using hlater, hu⟩

end IdeProjects
