import IdeProjects.Proofs.Descriptor.Project
import IdeProjects.Proofs.Library.Listing
import IdeProjects.Proofs.Unit.Resolved

/-!
# `IdeProjects.Proofs.Library.Order`: what the order of a listing can change

A scan of a reordered tree finds the same libraries, but a library that
stands under several spellings is found under the one that is listed first,
and any of them can be (`FileTree.names_listedFirst`). So what is found does
not depend on the order if and only if nothing is left to choose:
`Unambiguous` says that no two files of one directory are spellings of one
library, unless a file beside it decides the spelling already.
`scan_orderFree_iff` is that condition, and its consequence: where the same
paths are found, every unit gets the same text.
-/

set_option autoImplicit false

namespace IdeProjects

open Session FileTree

variable {base : Location} {installRoot : Path} {layout : ScanLayout} {t t' : FileTree}

/-! ### Listings of reordered trees -/

section

variable {directory : Path} {pattern : String} {files : List String}

/-- A directory has one listing for a pattern. -/
theorem Lists.unique {files' : List String} (h : Lists t directory pattern files)
    (h' : Lists t directory pattern files') : files = files' := by
  obtain ⟨d, hd, _, rfl⟩ := h
  obtain ⟨d', hd', _, rfl⟩ := h'
  rw [hd] at hd'
  cases hd'
  rfl

/-- Which files a tree holds does not depend on the order of its entries. -/
theorem holdsFile_reordered (h : Reordered t t') (p : Path) : t'.holdsFile p = t.holdsFile p := by
  rw [holdsFile, holdsFile, h.kind?_eq]

/-- A reordered tree lists the same files. -/
theorem Lists.reordered (h : Lists t directory pattern files) (hsame : Reordered t t') :
    ∃ files', Lists t' directory pattern files' ∧ files'.Perm files := by
  obtain ⟨d, hd, hkinds, rfl⟩ := h
  have hperm := hsame.names_perm d
  refine ⟨_, ⟨d, by rw [hsame.locate_eq, hd], fun n hn => ?_, rfl⟩, ?_⟩
  · rw [hsame.kind?_eq]
    exact hkinds n (hperm.mem_iff.mp hn)
  · simp only [holdsFile_reordered hsame]
    exact hperm.filter _

/-- Each of the files comes first in some reordered tree. -/
theorem Lists.first (h : Lists t directory pattern files) {n : String} (hn : n ∈ files) :
    ∃ t' rest, Reordered t t' ∧ Lists t' directory pattern (n :: rest) := by
  obtain ⟨d, hd, hkinds, rfl⟩ := h
  obtain ⟨hname, hmatch⟩ := List.mem_filter.mp hn
  obtain ⟨others, hothers⟩ := names_listedFirst hname
  have hsame := reordered_listedFirst t (d ++ [n])
  obtain ⟨files', hfiles', _⟩ := Lists.reordered ⟨d, hd, hkinds, rfl⟩ hsame
  have hlisted := hfiles'
  obtain ⟨d', hd', _, hfiltered⟩ := hfiles'
  -- The path leads to the same place as before, so that is the listing with `n` in front.
  obtain rfl : d = d' := by
    rw [hsame.locate_eq, hd] at hd'
    cases hd'
    rfl
  rw [hothers, List.filter_cons_of_pos (by rwa [holdsFile_reordered hsame])] at hfiltered
  exact ⟨_, _, hsame, hfiltered ▸ hlisted⟩

/-- What a scan lists in a tree is settled by the tree. -/
theorem Scans.unique {plain plain' inner inner' : List String} {hasModules hasModules' : Bool}
    (h : Scans t installRoot layout plain hasModules inner)
    (h' : Scans t installRoot layout plain' hasModules' inner') :
    plain = plain' ∧ inner = inner' := by
  obtain ⟨kind, hkind, rfl⟩ := h.modules
  obtain ⟨kind', hkind', rfl⟩ := h'.modules
  obtain rfl : kind = kind' := Except.ok.inj (hkind.symm.trans hkind')
  refine ⟨h.managed.unique h'.managed, ?_⟩
  have hinner := h.inner
  have hinner' := h'.inner
  split at hinner
  · rename_i hdirectory
    rw [if_pos hdirectory] at hinner'
    exact hinner.unique hinner'
  · rename_i hdirectory
    rw [if_neg hdirectory] at hinner'
    rw [hinner, hinner']

/-- A scan of a reordered tree lists the same files. -/
theorem Scans.reordered {plain inner : List String} {hasModules : Bool}
    (h : Scans t installRoot layout plain hasModules inner) (hsame : Reordered t t') :
    ∃ plain' inner', Scans t' installRoot layout plain' hasModules inner' ∧
      plain'.Perm plain ∧ inner'.Perm inner := by
  obtain ⟨plain', hplain', hperm⟩ := h.managed.reordered hsame
  have hmodules := h.modules
  rw [← hsame.kind?_eq] at hmodules
  cases hasModules with
  | true =>
      obtain ⟨inner', hinner', hperm'⟩ := Lists.reordered (by simpa using h.inner) hsame
      exact ⟨plain', inner', ⟨hplain', hmodules, by simpa using hinner'⟩, hperm, hperm'⟩
  | false =>
      obtain rfl : inner = [] := by simpa using h.inner
      exact ⟨plain', [], ⟨hplain', hmodules, by simp⟩, hperm, .refl _⟩

/-- Each file in the directory of managed libraries comes first in the scan
of some reordered tree. -/
theorem Scans.first_managed {plain inner : List String} {hasModules : Bool}
    (h : Scans t installRoot layout plain hasModules inner) {n : String} (hn : n ∈ plain) :
    ∃ t' rest inner', Reordered t t' ∧
      Scans t' installRoot layout (n :: rest) hasModules inner' := by
  obtain ⟨t', rest, hsame, hfirst⟩ := h.managed.first hn
  obtain ⟨plain', inner', hscans, _, _⟩ := h.reordered hsame
  exact ⟨t', rest, inner', hsame, hfirst.unique hscans.managed ▸ hscans⟩

/-- So does each file in the directory of modules; the other list still
holds the same files. -/
theorem Scans.first_inner {plain inner : List String} {hasModules : Bool}
    (h : Scans t installRoot layout plain hasModules inner) {n : String} (hn : n ∈ inner) :
    ∃ t' plain' rest, Reordered t t' ∧
      Scans t' installRoot layout plain' hasModules (n :: rest) ∧ plain'.Perm plain := by
  cases hasModules with
  | false =>
      obtain rfl : inner = [] := by simpa using h.inner
      cases hn
  | true =>
      obtain ⟨t', rest, hsame, hfirst⟩ := Lists.first (by simpa using h.inner) hn
      obtain ⟨plain', inner', hscans, hperm, _⟩ := h.reordered hsame
      have heq := hfirst.unique (by simpa using hscans.inner)
      exact ⟨t', plain', rest, hsame, heq ▸ hscans, hperm⟩

end

/-! ### Spellings -/

/-- The libraries of one key have one spelling. -/
def OneSpelling (rs : List (LibraryReference base)) : Prop :=
  ∀ r ∈ rs, ∀ s ∈ rs, r.key = s.key → r = s

/-- The listed files leave nothing to choose: no two files of one directory
are spellings of one library. In the directory of modules that counts only
for libraries that are not found beside it. -/
def Settled (base : Location) (installRoot : Path) (layout : ScanLayout)
    (plain inner : List String) : Prop :=
  let managed := referencesTo base (layout.managed installRoot) plain
  let modules := referencesTo base (layout.modules installRoot) inner
  OneSpelling managed ∧ OneSpelling (modules.filter fun r => r.key ∉ managed.map (·.key))

/-- What a scan of the tree lists is settled. -/
def Unambiguous (base : Location) (installRoot : Path) (layout : ScanLayout) (t : FileTree) :
    Prop :=
  ∀ plain hasModules inner, Scans t installRoot layout plain hasModules inner →
    Settled base installRoot layout plain inner

/-- Libraries with one spelling for each key have it in every part of their
list. -/
theorem OneSpelling.of_mem {rs ss : List (LibraryReference base)} (h : OneSpelling rs)
    (hmem : ∀ r ∈ ss, r ∈ rs) : OneSpelling ss :=
  fun r hr s hs hkey => h r (hmem r hr) s (hmem s hs) hkey

instance (rs : List (LibraryReference base)) : Decidable (OneSpelling rs) :=
  inferInstanceAs (Decidable (∀ r ∈ rs, ∀ s ∈ rs, r.key = s.key → r = s))

instance (base : Location) (installRoot : Path) (layout : ScanLayout)
    (plain inner : List String) : Decidable (Settled base installRoot layout plain inner) :=
  inferInstanceAs (Decidable (_ ∧ _))

/-- The order of the files does not matter for that. -/
theorem Settled.perm {plain plain' inner inner' : List String}
    (h : Settled base installRoot layout plain inner) (hplain : plain'.Perm plain)
    (hinner : inner'.Perm inner) : Settled base installRoot layout plain' inner' := by
  have hmanaged : (referencesTo base (layout.managed installRoot) plain').Perm
      (referencesTo base (layout.managed installRoot) plain) := hplain.map _
  have hmodules : (referencesTo base (layout.modules installRoot) inner').Perm
      (referencesTo base (layout.modules installRoot) inner) := hinner.map _
  refine ⟨h.1.of_mem fun r hr => hmanaged.mem_iff.mp hr, h.2.of_mem fun r hr => ?_⟩
  -- Both the references and the keys that take them out are the same up to order.
  obtain ⟨hr, hkey⟩ := List.mem_filter.mp hr
  rw [decide_eq_true_eq, (hmanaged.map _).mem_iff] at hkey
  exact List.mem_filter.mpr ⟨hmodules.mem_iff.mp hr, by simpa using hkey⟩

/-- Scans that have found the same paths. -/
def SamePaths (scan scan' : LibraryScan base) : Prop :=
  ∀ path, path ∈ scan'.libraries.map (·.path) ↔ path ∈ scan.libraries.map (·.path)

/-- Two scans have the same paths if they have the same libraries. -/
theorem samePaths_iff {scan scan' : LibraryScan base} :
    SamePaths scan scan' ↔ ∀ r, r ∈ scan'.libraries ↔ r ∈ scan.libraries := by
  have hpath : ∀ (rs : List (LibraryReference base)) (r : LibraryReference base),
      r.path ∈ rs.map (·.path) ↔ r ∈ rs := by
    intro rs r
    refine ⟨fun h => ?_, fun h => List.mem_map.mpr ⟨r, h, rfl⟩⟩
    obtain ⟨⟨path⟩, hs, rfl⟩ := List.mem_map.mp h
    exact hs
  exact ⟨fun h r => by rw [← hpath, ← hpath, h], fun h path => by
    simpa only [hpath] using h ⟨path⟩⟩

/-- A scan holds one reference for each key. -/
theorem nodup_keys_libraries (scan : LibraryScan base) : (scan.libraries.map (·.key)).Nodup := by
  cases scan with
  | missing managed => simp [LibraryScan.libraries]
  | found managed modules hasModules libraries => exact libraries.nodup_keys

/-- What is found of listed files: the first reference of each key. -/
theorem mem_libraries_ofListed {plain inner : List String} {hasModules : Bool}
    {r : LibraryReference base} :
    r ∈ (LibraryScan.ofListed base installRoot layout plain hasModules inner).libraries ↔
      (scanReferences base installRoot layout plain inner).find? (·.key = r.key) = some r :=
  ReferenceSet.mem_foldl_addNew_iff

/-- Where nothing is left to choose, every reference in the directory of
managed libraries is found, and those in that of modules that are not found
beside it. -/
theorem Settled.mem_libraries_iff {plain inner : List String} {hasModules : Bool}
    (h : Settled base installRoot layout plain inner) {r : LibraryReference base} :
    r ∈ (LibraryScan.ofListed base installRoot layout plain hasModules inner).libraries ↔
      r ∈ referencesTo base (layout.managed installRoot) plain ∨
      r ∈ referencesTo base (layout.modules installRoot) inner ∧
        r.key ∉ (referencesTo base (layout.managed installRoot) plain).map (·.key) := by
  obtain ⟨hmanaged, hmodules⟩ := h
  rw [mem_libraries_ofListed, scanReferences, List.find?_append]
  set managed := referencesTo base (layout.managed installRoot) plain
  set modules := referencesTo base (layout.modules installRoot) inner
  have hsome : (managed.find? (·.key = r.key)).isSome ↔ r.key ∈ managed.map (·.key) := by
    rw [List.find?_isSome]
    simp
  -- The files of modules are asked only for a key that no file beside them has.
  by_cases hkey : r.key ∈ managed.map (·.key)
  · rw [Option.or_of_isSome (hsome.mpr hkey),
      ReferenceSet.find?_key_eq_some_iff fun hr s hs heq => hmanaged s hs r hr heq]
    simp [hkey]
  · have hnone : managed.find? (·.key = r.key) = none := by
      rw [← Option.not_isSome_iff_eq_none, hsome]
      exact hkey
    have hnot : r ∉ managed := fun hr => hkey (List.mem_map.mpr ⟨r, hr, rfl⟩)
    rw [hnone, Option.none_or, ReferenceSet.find?_key_eq_some_iff fun hr s hs heq =>
      hmodules s (List.mem_filter.mpr ⟨hs, by simpa [heq] using hkey⟩) r
        (List.mem_filter.mpr ⟨hr, by simpa using hkey⟩) heq]
    simp [hkey, hnot]

/-! ### Reordered scans -/

section

variable {scan : LibraryScan base}

/-- A scan of a reordered tree misses the same directory, or it is made of
the same files. -/
theorem scan_reordered (hscan : outcome (scanLibraries base installRoot layout) t = .ok scan)
    (hsame : Reordered t t') :
    (scan = .missing (layout.managed installRoot) ∧
      outcome (scanLibraries base installRoot layout) t' = .ok scan) ∨
    ∃ plain hasModules inner plain' inner', plain'.Perm plain ∧ inner'.Perm inner ∧
      Scans t installRoot layout plain hasModules inner ∧
      scan = .ofListed base installRoot layout plain hasModules inner ∧
      outcome (scanLibraries base installRoot layout) t' =
        .ok (.ofListed base installRoot layout plain' hasModules inner') := by
  rcases scanLibraries_eq_ok_iff.mp hscan with
    ⟨kind, hkind, hdirectory, rfl⟩ | ⟨plain, hasModules, inner, hscans, rfl⟩
  · rw [← hsame.kind?_eq] at hkind
    exact Or.inl ⟨rfl, scanLibraries_eq_ok_iff.mpr (Or.inl ⟨kind, hkind, hdirectory, rfl⟩)⟩
  · obtain ⟨plain', inner', hscans', hperm, hperm'⟩ := hscans.reordered hsame
    exact Or.inr ⟨plain, hasModules, inner, plain', inner', hperm, hperm', hscans, rfl,
      outcome_of_scans base hscans'⟩

/-- A scan of a reordered tree misses the same directory and finds the same
libraries. -/
theorem exists_scan_reordered
    (hscan : outcome (scanLibraries base installRoot layout) t = .ok scan)
    (hsame : Reordered t t') :
    ∃ scan', outcome (scanLibraries base installRoot layout) t' = .ok scan' ∧
      scan'.missingRoot? = scan.missingRoot? ∧
      ∀ k, k ∈ scan'.libraries.map (·.key) ↔ k ∈ scan.libraries.map (·.key) := by
  rcases scan_reordered hscan hsame with
    ⟨_, hscan'⟩ | ⟨plain, hasModules, inner, plain', inner', hplain, hinner, _, rfl, hscan'⟩
  · exact ⟨scan, hscan', rfl, fun _ => Iff.rfl⟩
  · refine ⟨_, hscan', rfl, fun k => ?_⟩
    have hperm : (scanReferences base installRoot layout plain' inner').Perm
        (scanReferences base installRoot layout plain inner) :=
      (hplain.map _).append (hinner.map _)
    exact ReferenceSet.mem_keys_foldl_addNew_iff.trans
      ((hperm.map _).mem_iff.trans ReferenceSet.mem_keys_foldl_addNew_iff.symm)

/-- Where nothing is left to choose, a scan of a reordered tree finds the
same paths. -/
theorem samePaths_of_unambiguous (hunambiguous : Unambiguous base installRoot layout t)
    (hscan : outcome (scanLibraries base installRoot layout) t = .ok scan)
    (hsame : Reordered t t') {scan' : LibraryScan base}
    (hscan' : outcome (scanLibraries base installRoot layout) t' = .ok scan') :
    SamePaths scan scan' := by
  rcases scan_reordered hscan hsame with ⟨_, hother⟩ |
    ⟨plain, hasModules, inner, plain', inner', hplain, hinner, hscans, rfl, hother⟩
  · obtain rfl := Except.ok.inj (hscan'.symm.trans hother)
    exact fun _ => Iff.rfl
  · obtain rfl := Except.ok.inj (hscan'.symm.trans hother)
    have hsettled := hunambiguous plain hasModules inner hscans
    have hmanaged : (referencesTo base (layout.managed installRoot) plain').Perm
        (referencesTo base (layout.managed installRoot) plain) := hplain.map _
    have hmodules : (referencesTo base (layout.modules installRoot) inner').Perm
        (referencesTo base (layout.modules installRoot) inner) := hinner.map _
    rw [samePaths_iff]
    intro r
    rw [hsettled.mem_libraries_iff, (hsettled.perm hplain hinner).mem_libraries_iff,
      hmanaged.mem_iff, hmodules.mem_iff, (hmanaged.map _).mem_iff]

/-- If all scans of reordered trees find the same paths, nothing is left to
choose: the spelling that is listed first is found, whichever it is. -/
theorem unambiguous_of_samePaths
    (hall : ∀ t' scan', Reordered t t' →
      outcome (scanLibraries base installRoot layout) t' = .ok scan' → SamePaths scan scan') :
    Unambiguous base installRoot layout t := by
  intro plain hasModules inner hscans
  -- What the scan of some reordered tree finds is found here too.
  have hfound : ∀ {t' plain' inner'} {r : LibraryReference base}, Reordered t t' →
      Scans t' installRoot layout plain' hasModules inner' →
      (scanReferences base installRoot layout plain' inner').find? (·.key = r.key) = some r →
      r ∈ scan.libraries := by
    intro t' plain' inner' r hsame hscans' hfirst
    have hpaths := hall t' _ hsame (outcome_of_scans base hscans')
    exact (samePaths_iff.mp hpaths r).mp (mem_libraries_ofListed.mpr hfirst)
  -- And of each key only one is found.
  have hone : ∀ rs : List (LibraryReference base), (∀ r ∈ rs, r ∈ scan.libraries) →
      OneSpelling rs := fun rs hrs r hr s hs hkey =>
    List.inj_on_of_nodup_map (nodup_keys_libraries scan) (hrs r hr) (hrs s hs) hkey
  constructor
  · refine hone _ fun r hr => ?_
    obtain ⟨n, hn, rfl⟩ := List.mem_map.mp hr
    obtain ⟨t', rest, inner', hsame, hscans'⟩ := hscans.first_managed hn
    exact hfound hsame hscans' (by simp [scanReferences, referencesTo])
  · refine hone _ fun r hr => ?_
    obtain ⟨hr, hkey⟩ := List.mem_filter.mp hr
    obtain ⟨n, hn, rfl⟩ := List.mem_map.mp hr
    obtain ⟨t', plain', rest, hsame, hscans', hplain⟩ := hscans.first_inner hn
    refine hfound hsame hscans' ?_
    -- No file beside the directory has the key, so the first one in it counts.
    have hmanaged : (referencesTo base (layout.managed installRoot) plain').Perm
        (referencesTo base (layout.managed installRoot) plain) := hplain.map _
    rw [scanReferences, List.find?_append, List.find?_eq_none.mpr, Option.none_or]
    · exact List.find?_cons_of_pos (by simp)
    · intro s hs heq
      rw [decide_eq_true_eq, ← (hmanaged.map _).mem_iff] at hkey
      exact hkey (List.mem_map.mpr ⟨s, hs, by simpa using heq⟩)

/-- Where the same paths are found, every unit gets the same text. -/
theorem projectText_of_samePaths {scan' : LibraryScan base} (h : SamePaths scan scan')
    (u : CompilationUnit) (options : RenderOptions) :
    (u.resolve scan'.libraries).projectText options =
      (u.resolve scan.libraries).projectText options := by
  -- The same elements and none twice: a unit is resolved with a permutation.
  have hperm : scan'.libraries.Perm scan.libraries :=
    (List.perm_ext_iff_of_nodup (nodup_keys_libraries scan').of_map
      (nodup_keys_libraries scan).of_map).mpr (samePaths_iff.mp h)
  rw [resolve_perm u hperm]

end

/-! ### A small setting -/

/-- An installation at `/lib`. -/
def libraryRoot : Path := ⟨.slash, ["lib"]⟩

/-- A tree with files in its directory of managed libraries. -/
def libraryTree (names : List String) : FileTree :=
  ⟨[], (["lib"], .directory) :: (["lib", "Managed"], .directory) ::
    names.map fun n => (["lib", "Managed", n], .file [])⟩

/-- What a scan of the installation lists, if there are only files that the
pattern describes. -/
theorem scans_libraryRoot {names : List String}
    (hd : t.locate ⟨.slash, ["lib", "Managed"]⟩ = .ok (.node ["lib", "Managed"] .directory))
    (hnames : t.names ["lib", "Managed"] = names)
    (hfiles : names.map (fun n => t.kind? ⟨.slash, ["lib", "Managed", n]⟩) =
      names.map fun _ => .ok (some .file))
    (hmatch : ∀ n ∈ names, globMatches "Unity*.dll" n = true)
    (hmodules : t.kind? ⟨.slash, ["lib", "Managed", "UnityEngine"]⟩ = .ok none) :
    Scans t libraryRoot {} names false [] := by
  have hmanaged : ScanLayout.managed {} libraryRoot = ⟨.slash, ["lib", "Managed"]⟩ := by decide
  have hinner : ScanLayout.modules {} libraryRoot =
    ⟨.slash, ["lib", "Managed", "UnityEngine"]⟩ := by decide
  have hkind : ∀ n ∈ names, t.kind? (Path.child ⟨.slash, ["lib", "Managed"]⟩ n) =
      .ok (some .file) := List.map_inj_left.mp hfiles
  refine ⟨⟨["lib", "Managed"], by rw [hmanaged, hd], ?_, ?_⟩, ⟨none, by rw [hinner, hmodules], rfl⟩,
    by simp⟩
  · rw [hnames, hmanaged]
    exact fun n hn => ⟨_, hkind n hn⟩
  · rw [hnames, hmanaged, eq_comm, List.filter_eq_self]
    intro n hn
    rw [holdsFile, hkind n hn]
    exact hmatch n hn

/-! ### The order of listings -/

/-- The order of listings changes neither which directory is missing nor
which libraries are found. It changes neither their paths nor the text of
any unit, if and only if the files that are listed leave nothing to choose:
no two files of one directory are spellings of one library, unless a file
beside it decides between them. -/
theorem scan_orderFree_iff {scan : LibraryScan base}
    (hscan : outcome (scanLibraries base installRoot layout) t = .ok scan) :
    (∀ t', Reordered t t' → ∃ scan',
      outcome (scanLibraries base installRoot layout) t' = .ok scan' ∧
      scan'.missingRoot? = scan.missingRoot? ∧
      ∀ k, k ∈ scan'.libraries.map (·.key) ↔ k ∈ scan.libraries.map (·.key)) ∧
    ((∀ t' scan', Reordered t t' →
      outcome (scanLibraries base installRoot layout) t' = .ok scan' →
        SamePaths scan scan' ∧ ∀ (u : CompilationUnit) (options : RenderOptions),
          (u.resolve scan'.libraries).projectText options =
            (u.resolve scan.libraries).projectText options) ↔
      Unambiguous base installRoot layout t) := by
  refine ⟨fun t' hsame => exists_scan_reordered hscan hsame, ?_, ?_⟩
  · intro hall
    exact unambiguous_of_samePaths fun t' scan' hsame hscan' => (hall t' scan' hsame hscan').1
  · intro hunambiguous t' scan' hsame hscan'
    have hpaths := samePaths_of_unambiguous hunambiguous hscan hsame hscan'
    exact ⟨hpaths, projectText_of_samePaths hpaths⟩

/-- Two libraries of an installation. -/
def twoLibraries : FileTree := libraryTree ["Unity.dll", "UnityB.dll"]

/-- Two libraries are found in both orders, and every unit gets the same
text. -/
theorem scan_orderFree_two_libraries :
    ∃ scan scan' : LibraryScan [],
      outcome (scanLibraries [] libraryRoot {}) twoLibraries = .ok scan ∧
      outcome (scanLibraries [] libraryRoot {})
        (twoLibraries.listedFirst ["lib", "Managed", "UnityB.dll"]) = .ok scan' ∧
      scan.libraries = [⟨"/lib/Managed/Unity.dll"⟩, ⟨"/lib/Managed/UnityB.dll"⟩] ∧
      SamePaths scan scan' ∧ ∀ (u : CompilationUnit) (options : RenderOptions),
        (u.resolve scan'.libraries).projectText options =
          (u.resolve scan.libraries).projectText options := by
  have hscans : Scans twoLibraries libraryRoot {} ["Unity.dll", "UnityB.dll"] false [] :=
    scans_libraryRoot rfl (by decide) rfl (by decide +kernel) rfl
  have hsame := reordered_listedFirst twoLibraries ["lib", "Managed", "UnityB.dll"]
  have hunambiguous : Unambiguous [] libraryRoot {} twoLibraries := by
    intro plain hasModules inner hother
    obtain ⟨rfl, rfl⟩ := hscans.unique hother
    decide +kernel
  have hscan := outcome_of_scans [] hscans
  obtain ⟨hfound, hfree⟩ := scan_orderFree_iff hscan
  obtain ⟨scan', hscan', _, _⟩ := hfound _ hsame
  exact ⟨_, scan', hscan, hscan', by decide +kernel, hfree.mpr hunambiguous _ _ hsame hscan'⟩

/-- Two spellings of one library. -/
def twoSpellings : FileTree := libraryTree ["Unity.dll", "UNITY.dll"]

/-- Of two spellings the one that is listed first is found, and the text of
a unit has it. -/
theorem scan_orderFree_two_spellings :
    Reordered twoSpellings (twoSpellings.listedFirst ["lib", "Managed", "UNITY.dll"]) ∧
    ∃ scan scan' : LibraryScan [],
      outcome (scanLibraries [] libraryRoot {}) twoSpellings = .ok scan ∧
      outcome (scanLibraries [] libraryRoot {})
        (twoSpellings.listedFirst ["lib", "Managed", "UNITY.dll"]) = .ok scan' ∧
      scan.libraries = [⟨"/lib/Managed/Unity.dll"⟩] ∧
      scan'.libraries = [⟨"/lib/Managed/UNITY.dll"⟩] ∧
      (CompilationUnit.resolve { name := "App" } scan.libraries).projectText {} ≠
        (CompilationUnit.resolve { name := "App" } scan'.libraries).projectText {} := by
  have hscans : Scans twoSpellings libraryRoot {} ["Unity.dll", "UNITY.dll"] false [] :=
    scans_libraryRoot rfl (by decide) rfl (by decide +kernel) rfl
  have hscans' : Scans (twoSpellings.listedFirst ["lib", "Managed", "UNITY.dll"]) libraryRoot {}
      ["UNITY.dll", "Unity.dll"] false [] :=
    scans_libraryRoot rfl (by decide) rfl (by decide +kernel) rfl
  have hfirst : (LibraryScan.ofListed [] libraryRoot {} ["Unity.dll", "UNITY.dll"] false
      []).libraries = [⟨"/lib/Managed/Unity.dll"⟩] := by decide +kernel
  have hfirst' : (LibraryScan.ofListed [] libraryRoot {} ["UNITY.dll", "Unity.dll"] false
      []).libraries = [⟨"/lib/Managed/UNITY.dll"⟩] := by decide +kernel
  refine ⟨reordered_listedFirst _ _, _, _, outcome_of_scans [] hscans,
    outcome_of_scans [] hscans', hfirst, hfirst', ?_⟩
  rw [hfirst, hfirst']
  -- The texts are told apart by their lines of references, the rest need not be computed.
  simp only [CompilationUnit.resolve, mergeReferences, List.mergeSort_singleton]
  intro htext
  have hlines := Project.referenceLines_of_projectText_eq htext
  revert hlines
  decide +kernel

end IdeProjects
