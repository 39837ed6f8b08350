import IdeProjects.Proofs.Library.Order
import IdeProjects.Proofs.Path.Written

/-!
# `IdeProjects.Proofs.Library.Coverage`: a scan finds the libraries of an installation

A scan looks through one or two directories (`ScanLayout.Searches`). What it
has to find there are the regular files whose names the pattern of the
directory describes (`IsLibraryFile`), and `scan_coversInstallation` says
that it finds them and nothing else: a reference that is found has the path
of such a file, and each such file has the key of a reference that is found,
under whatever spelling. The two are not the same statement, for one
reference stands for all files of its key.

That a file stands directly in the directory, and that the path that is
stored leads to it, is so wherever the tree has names such as files can have
(`FileTree.IsNamed`): then the name of an entry is one part of its path.
-/

set_option autoImplicit false

namespace IdeProjects

open Session FileTree

/-! ### Files of an installation -/

/-- A regular file that the directory lists under a name, which the pattern
describes once both are in lower case. -/
structure IsLibraryFile (t : FileTree) (directory : Path) (pattern n : String) : Prop where
  listed : ∃ d, t.locate directory = .ok (.node d .directory) ∧ n ∈ t.names d
  isFile : t.kind? (directory.child n) = .ok (some .file)
  described : Glob.describes (Glob.parts (Text.lowerChars pattern.toList))
    (Text.lowerChars n.toList) = true

/-- A scan looks for the files that a pattern describes in the directory of
managed libraries and in that of modules. -/
inductive ScanLayout.Searches (layout : ScanLayout) (installRoot : Path) : Path → String → Prop
  | managed : Searches layout installRoot (layout.managed installRoot) layout.rootPattern
  | modules : Searches layout installRoot (layout.modules installRoot) layout.modulePattern

/-- The names in the tree are such as files can have. -/
def FileTree.IsNamed (t : FileTree) : Prop :=
  ∀ entry ∈ t.nodes, ∀ n ∈ entry.1, Path.IsName n

instance (t : FileTree) : Decidable t.IsNamed :=
  inferInstanceAs (Decidable (∀ entry ∈ t.nodes, ∀ n ∈ entry.1, Path.IsName n))

section

variable {t : FileTree} {directory : Path} {pattern n : String} {files : List String}

/-- A tree holds a file at a path if the kind of what is there says so. -/
theorem FileTree.holdsFile_iff {p : Path} :
    t.holdsFile p = true ↔ t.kind? p = .ok (some .file) := by
  rw [holdsFile]
  split <;> simp_all

/-- The files that are listed for a pattern. -/
theorem Lists.mem_iff (h : Lists t directory pattern files) :
    n ∈ files ↔ IsLibraryFile t directory pattern n := by
  obtain ⟨d, hd, _, rfl⟩ := h
  rw [List.mem_filter, Bool.and_eq_true, holdsFile_iff, globMatches,
    Glob.matchesParts_eq_describes]
  constructor
  · rintro ⟨hlisted, hfile, hmatch⟩
    exact ⟨⟨d, hd, hlisted⟩, hfile, hmatch⟩
  · rintro ⟨⟨d', hd', hlisted⟩, hfile, hmatch⟩
    rw [hd] at hd'
    cases hd'
    exact ⟨hlisted, hfile, hmatch⟩

/-- What a directory lists has a place directly below it. -/
theorem FileTree.exists_entry_of_mem_names {d : Location} (h : n ∈ t.names d) :
    ∃ x, (d ++ [n], x) ∈ t.nodes := by
  obtain ⟨⟨place, x⟩, hentry, hname⟩ := List.mem_filterMap.mp h
  dsimp only at hname
  split at hname
  · rename_i hdirectory
    rw [← List.dropLast_append_getLast? n hname, hdirectory] at hentry
    exact ⟨x, hentry⟩
  · cases hname

/-- Under a proper name the file stands directly in the directory. The path
leads somewhere, so it was short enough and had no null character, and then
its last step goes to the entry of that name. -/
theorem IsLibraryFile.exists_place (h : IsLibraryFile t directory pattern n)
    (hn : Path.IsName n) :
    ∃ d bytes, t.locate directory = .ok (.node d .directory) ∧
      t.locate (directory.child n) = .ok (.node (d ++ [n]) (.file bytes)) := by
  obtain ⟨⟨d, hd, _⟩, hfile, _⟩ := h
  -- A path that leads somewhere has no null character and is not too long.
  obtain ⟨q, bytes, hq⟩ : ∃ q bytes, t.locate (directory.child n) = .ok (.node q (.file bytes)) := by
    rw [kind?] at hfile
    split at hfile <;> simp_all
  have hnull : n.toList.contains '\x00' = false := by
    have hchild := (locate_eq_ok_iff.mp hq).1
    rw [Path.hasNull_child, Bool.or_eq_false_iff] at hchild
    exact hchild.2
  rw [locate_child hd hn.notDots hnull] at hq
  refine ⟨d, bytes, hd, ?_⟩
  rw [locate_child hd hn.notDots hnull, hq]
  split at hq
  · split at hq <;> cases hq
    rfl
  · cases hq

end

/-! ### What a scan covers -/

section

variable {base : Location} {installRoot : Path} {layout : ScanLayout} {t : FileTree}

/-- The scan has found the libraries of the installation in the tree. -/
structure LibraryScan.Covers (t : FileTree) (installRoot : Path) (layout : ScanLayout)
    (scan : LibraryScan base) : Prop where
  /-- Without the directory of managed libraries nothing is found, and one
  warning names the directory. -/
  ofMissing : t.kind? (layout.managed installRoot) ≠ .ok (some .directory) →
    scan.libraries = [] ∧ scan.missingRoot? = some (layout.managed installRoot) ∧
      scan.warnings = [missingText (layout.managed installRoot)]
  /-- With it there is nothing to warn of. -/
  ofPresent : t.kind? (layout.managed installRoot) = .ok (some .directory) →
    scan.missingRoot? = none ∧ scan.warnings = []
  /-- Whatever is found is a file that is looked for. -/
  sound : ∀ r ∈ scan.libraries, ∃ directory pattern n,
    layout.Searches installRoot directory pattern ∧ IsLibraryFile t directory pattern n ∧
      r.path = (directory.child n).text
  /-- Of every file that is looked for there is a reference with its key. -/
  complete : t.kind? (layout.managed installRoot) = .ok (some .directory) →
    ∀ directory pattern n, layout.Searches installRoot directory pattern →
      IsLibraryFile t directory pattern n →
      ∃ r ∈ scan.libraries, r.key = (⟨(directory.child n).text⟩ : LibraryReference base).key
  /-- No two references are to one library. -/
  nodup_keys : (scan.libraries.map (·.key)).Nodup
  /-- Among proper names, each path that is found leads to a regular file
  directly in one of the directories. -/
  direct : t.IsNamed → installRoot.IsWritten → ∀ r ∈ scan.libraries,
    ∃ directory pattern d n bytes, layout.Searches installRoot directory pattern ∧
      t.locate directory = .ok (.node d .directory) ∧
      t.locate (Path.ofText r.path) = .ok (.node (d ++ [n]) (.file bytes))

/-- The directories that are searched are paths that can be written out, if
the installation is at one. -/
theorem ScanLayout.Searches.isWritten {directory : Path} {pattern : String}
    (h : layout.Searches installRoot directory pattern) (hroot : installRoot.IsWritten) :
    directory.IsWritten := by
  have hmanaged : (layout.managed installRoot).IsWritten := hroot.join (Path.isWritten_ofText _)
  cases h with
  | managed => exact hmanaged
  | modules => exact hmanaged.join (Path.isWritten_ofText _)

/-- The files that a scan has listed are those it looks for. Where no
directory of modules is, both are without its files. -/
theorem Scans.mem_scanReferences_iff {plain inner : List String} {hasModules : Bool}
    (h : Scans t installRoot layout plain hasModules inner) {r : LibraryReference base} :
    r ∈ scanReferences base installRoot layout plain inner ↔
      ∃ directory pattern n, layout.Searches installRoot directory pattern ∧
        IsLibraryFile t directory pattern n ∧ r = ⟨(directory.child n).text⟩ := by
  have hinner : ∀ n, n ∈ inner ↔
      IsLibraryFile t (layout.modules installRoot) layout.modulePattern n := by
    intro n
    obtain ⟨kind, hkind, hmodules⟩ := h.modules
    have hlisted := h.inner
    split at hlisted
    · exact hlisted.mem_iff
    · -- Where no directory of modules is, no file lies in it.
      rename_i hnone
      subst hlisted
      refine ⟨nofun, fun hfile => absurd ?_ hnone⟩
      obtain ⟨d, hd, _⟩ := hfile.listed
      rw [kind?, hd] at hkind
      cases hkind
      exact hmodules.symm
  rw [scanReferences, List.mem_append, referencesTo, referencesTo, List.mem_map, List.mem_map]
  constructor
  · rintro (⟨n, hn, rfl⟩ | ⟨n, hn, rfl⟩)
    · exact ⟨_, _, n, .managed, h.managed.mem_iff.mp hn, rfl⟩
    · exact ⟨_, _, n, .modules, (hinner n).mp hn, rfl⟩
  · rintro ⟨directory, pattern, n, hsearched, hfile, rfl⟩
    cases hsearched with
    | managed => exact Or.inl ⟨n, h.managed.mem_iff.mpr hfile, rfl⟩
    | modules => exact Or.inr ⟨n, (hinner n).mpr hfile, rfl⟩

/-- A scan that returns has found the libraries of the installation: files
that it looks for and nothing else, each of them under its key, and no key
twice. If the directory of managed libraries is missing, it says so. -/
theorem scan_coversInstallation {scan : LibraryScan base}
    (hscan : outcome (scanLibraries base installRoot layout) t = .ok scan) :
    scan.Covers t installRoot layout := by
  rcases scanLibraries_eq_ok_iff.mp hscan with
    ⟨kind, hkind, hdirectory, rfl⟩ | ⟨plain, hasModules, inner, hscans, rfl⟩
  · have hmissing : t.kind? (layout.managed installRoot) ≠ .ok (some .directory) := by
      rw [hkind]
      exact fun heq => hdirectory (Except.ok.inj heq)
    exact {
      ofMissing := fun _ => ⟨rfl, rfl, rfl⟩
      ofPresent := fun hpresent => absurd hpresent hmissing
      sound := nofun
      complete := fun hpresent => absurd hpresent hmissing
      nodup_keys := nodup_keys_libraries _
      direct := nofun }
  · have hsound : ∀ r ∈ (LibraryScan.ofListed base installRoot layout plain hasModules
        inner).libraries, ∃ directory pattern n, layout.Searches installRoot directory pattern ∧
          IsLibraryFile t directory pattern n ∧ r = ⟨(directory.child n).text⟩ := fun r hr =>
      hscans.mem_scanReferences_iff.mp (List.mem_of_find?_eq_some (mem_libraries_ofListed.mp hr))
    refine {
      ofMissing := fun hmissing => absurd (kind?_of_lists hscans.managed) hmissing
      ofPresent := fun _ => ⟨rfl, rfl⟩
      sound := fun r hr => ?_
      complete := fun _ directory pattern n hsearched hfile => ?_
      nodup_keys := nodup_keys_libraries _
      direct := fun hnamed hroot r hr => ?_ }
    · obtain ⟨directory, pattern, n, hsearched, hfile, rfl⟩ := hsound r hr
      exact ⟨directory, pattern, n, hsearched, hfile, rfl⟩
    · -- The key is in the set because the file is among the references it is made of.
      have hmem : (⟨(directory.child n).text⟩ : LibraryReference base) ∈
          scanReferences base installRoot layout plain inner :=
        hscans.mem_scanReferences_iff.mpr ⟨directory, pattern, n, hsearched, hfile, rfl⟩
      have hkey := ReferenceSet.mem_keys_foldl_addNew_iff.mpr (List.mem_map.mpr ⟨_, hmem, rfl⟩)
      exact List.mem_map.mp hkey
    · obtain ⟨directory, pattern, n, hsearched, hfile, rfl⟩ := hsound r hr
      have hn : Path.IsName n := by
        obtain ⟨d, _, hlisted⟩ := hfile.listed
        obtain ⟨x, hentry⟩ := exists_entry_of_mem_names hlisted
        exact hnamed _ hentry n (by simp)
      obtain ⟨d, bytes, hd, hplace⟩ := hfile.exists_place hn
      refine ⟨directory, pattern, d, n, bytes, hsearched, hd, ?_⟩
      rw [Path.ofText_text ((hsearched.isWritten hroot).child hn), hplace]

end

/-- An installation with a library in each directory, and beside the first
one another file and a directory named like a library, with a file in it. -/
def mixedLibraries : FileTree :=
  ⟨[], [(["lib"], .directory), (["lib", "Managed"], .directory),
    (["lib", "Managed", "notes.txt"], .file []),
    (["lib", "Managed", "Unity.Old.dll"], .directory),
    (["lib", "Managed", "Unity.Old.dll", "Unity.Nested.dll"], .file []),
    (["lib", "Managed", "UNITYENGINE.DLL"], .file []),
    (["lib", "Managed", "UnityEngine"], .directory),
    (["lib", "Managed", "UnityEngine", "UnityEngine.Core.dll"], .file [])]⟩

/-- Of all that only the two libraries are found: a file of another kind, a
directory that is named like a library and the file in it are passed over. -/
theorem scan_coversInstallation_mixed_libraries :
    ∃ scan : LibraryScan [], outcome (scanLibraries [] libraryRoot {}) mixedLibraries = .ok scan ∧
      scan.libraries.map (·.path) = ["/lib/Managed/UNITYENGINE.DLL",
        "/lib/Managed/UnityEngine/UnityEngine.Core.dll"] ∧
      mixedLibraries.IsNamed ∧ libraryRoot.IsWritten ∧
      scan.Covers mixedLibraries libraryRoot {} := by
  have hlists : ∀ d pattern files,
      mixedLibraries.locate ⟨.slash, d⟩ = .ok (.node d .directory) →
      (∀ n ∈ mixedLibraries.names d, (mixedLibraries.kind? ⟨.slash, d ++ [n]⟩).isOk = true) →
      files = (mixedLibraries.names d).filter (fun n =>
        mixedLibraries.holdsFile ⟨.slash, d ++ [n]⟩ && globMatches pattern n) →
      Lists mixedLibraries ⟨.slash, d⟩ pattern files := by
    intro d pattern files hd hkinds hfiles
    refine ⟨d, hd, fun n hn => ?_, hfiles⟩
    cases hkind : mixedLibraries.kind? ⟨.slash, d ++ [n]⟩ with
    | ok kind => exact ⟨kind, hkind⟩
    | error fault =>
        have hok := hkinds n hn
        rw [hkind] at hok
        cases hok
  have hscans : Scans mixedLibraries libraryRoot {} ["UNITYENGINE.DLL"] true
      ["UnityEngine.Core.dll"] := by
    have hmanaged : ScanLayout.managed {} libraryRoot = ⟨.slash, ["lib", "Managed"]⟩ := by decide
    have hmodules : ScanLayout.modules {} libraryRoot =
      ⟨.slash, ["lib", "Managed", "UnityEngine"]⟩ := by decide
    refine ⟨?_, ⟨some .directory, by rw [hmodules]; rfl, rfl⟩, ?_⟩
    · rw [hmanaged]
      exact hlists _ _ _ rfl (by decide +kernel) (by decide +kernel)
    · rw [if_pos rfl, hmodules]
      exact hlists _ _ _ rfl (by decide +kernel) (by decide +kernel)
  have hroot : Path.ofText "/lib" = libraryRoot := by decide
  have hscan := outcome_of_scans [] hscans
  exact ⟨_, hscan, by decide +kernel, by decide +kernel, hroot ▸ Path.isWritten_ofText "/lib",
    scan_coversInstallation hscan⟩

end IdeProjects
