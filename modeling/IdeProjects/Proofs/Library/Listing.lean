import IdeProjects.Proofs.Library.ReferenceSet
import IdeProjects.Proofs.Library.Scan
import IdeProjects.Proofs.Storage.Reordered

/-!
# `IdeProjects.Proofs.Library.Listing`: what a scan finds, and in which order

A scan lists one or two directories. `Lists` says which files it takes from
a directory and in which order, and `scanLibraries_eq_ok_iff` is the scan in
these terms: two lists of files, put together.
-/

set_option autoImplicit false

namespace IdeProjects

open Session FileTree

/-! ### The files of one directory -/

/-- Whether a regular file stands at a path. -/
def FileTree.holdsFile (t : FileTree) (p : Path) : Bool :=
  match t.kind? p with
  | .ok (some .file) => true
  | _ => false

/-- The files that the pattern describes, in the order in which the
directory lists them. Nothing in the directory has a path that is too
long. -/
def Lists (t : FileTree) (directory : Path) (pattern : String) (files : List String) : Prop :=
  ∃ d, t.locate directory = .ok (.node d .directory) ∧
    (∀ n ∈ t.names d, ∃ kind, t.kind? (directory.child n) = .ok kind) ∧
    files = (t.names d).filter fun n => t.holdsFile (directory.child n) && globMatches pattern n

section

variable {t : FileTree} {directory : Path} {pattern : String}

/-- Asking for the files among names gives them, if it can be asked for
each. -/
theorem outcome_regularFiles_eq_ok_iff {names files : List String} :
    outcome (regularFiles directory names) t = .ok files ↔
      (∀ n ∈ names, ∃ kind, t.kind? (directory.child n) = .ok kind) ∧
        files = names.filter fun n => t.holdsFile (directory.child n) := by
  induction names generalizing files with
  | nil =>
      show Except.ok [] = Except.ok files ↔ _
      simp [eq_comm]
  | cons name rest ih =>
      have hholds : ∀ kind, t.kind? (directory.child name) = .ok kind →
          t.holdsFile (directory.child name) = (kind == some .file) := by
        intro kind hkind
        rw [holdsFile, hkind]
        rcases kind with _ | _ | _ <;> rfl
      -- Every name is asked about, and a question that is refused ends it.
      rw [regularFiles, (readOnly_isFile _).outcome_bind_eq_ok]
      constructor
      · rintro ⟨isFile, hfile, h⟩
        obtain ⟨kind, hkind, rfl⟩ := outcome_isKind_eq_ok_iff.mp hfile
        obtain ⟨others, hothers, h⟩ := (readOnly_regularFiles _ _).outcome_bind_eq_ok.mp h
        obtain ⟨hrest, rfl⟩ := ih.mp hothers
        cases h
        exact ⟨List.forall_mem_cons.mpr ⟨⟨kind, hkind⟩, hrest⟩,
          by rw [List.filter_cons, hholds kind hkind]⟩
      · rintro ⟨hkinds, rfl⟩
        obtain ⟨⟨kind, hkind⟩, hrest⟩ := List.forall_mem_cons.mp hkinds
        refine ⟨_, outcome_isKind_eq_ok_iff.mpr ⟨kind, hkind, rfl⟩, ?_⟩
        refine (readOnly_regularFiles _ _).outcome_bind_eq_ok.mpr ⟨_, ih.mpr ⟨hrest, rfl⟩, ?_⟩
        rw [List.filter_cons, hholds kind hkind]
        rfl

/-- The names in what a path leads to, if that is a directory. -/
theorem entries_eq_ok_iff {names : List String} :
    t.entries directory = .ok names ↔
      ∃ d, t.locate directory = .ok (.node d .directory) ∧ t.names d = names := by
  rw [FileTree.entries]
  cases t.locate directory with
  | error fault => simp
  | ok found =>
      cases found with
      | vacant place => simp
      | node place x => cases x <;> simp

/-- Looking for files gives those that the directory lists. It fails where
there is no directory, or where the look at one of the entries is refused. -/
theorem outcome_matchingFiles_eq_ok_iff {files : List String} :
    outcome (matchingFiles directory pattern) t = .ok files ↔
      Lists t directory pattern files := by
  -- The search takes the regular files first and the pattern afterwards.
  have hread : ReadOnly (Storage.entries directory : Session (List String)) := readOnly_look _
  have hentries : outcome (Storage.entries directory : Session (List String)) t =
      t.entries directory := outcome_look _ t
  have hfilter : ∀ names : List String,
      (names.filter fun n => t.holdsFile (directory.child n)).filter (globMatches pattern) =
        names.filter fun n => t.holdsFile (directory.child n) && globMatches pattern n :=
    fun names => by simp only [List.filter_filter, Bool.and_comm]
  rw [matchingFiles, hread.outcome_bind_eq_ok, hentries]
  constructor
  · rintro ⟨names, hnames, h⟩
    obtain ⟨d, hd, rfl⟩ := entries_eq_ok_iff.mp hnames
    obtain ⟨regular, hregular, h⟩ := (readOnly_regularFiles _ _).outcome_bind_eq_ok.mp h
    obtain ⟨hkinds, rfl⟩ := outcome_regularFiles_eq_ok_iff.mp hregular
    cases h
    exact ⟨d, hd, hkinds, hfilter _⟩
  · rintro ⟨d, hd, hkinds, rfl⟩
    refine ⟨_, entries_eq_ok_iff.mpr ⟨d, hd, rfl⟩, ?_⟩
    refine (readOnly_regularFiles _ _).outcome_bind_eq_ok.mpr
      ⟨_, outcome_regularFiles_eq_ok_iff.mpr ⟨hkinds, rfl⟩, ?_⟩
    rw [← hfilter]
    rfl

end

/-! ### The scan -/

section

variable {base : Location} {installRoot : Path} {layout : ScanLayout} {t : FileTree}

/-- A scan of a tree has listed the `plain` files in the directory of
managed libraries and the `inner` ones in that of modules, if it is there. -/
structure Scans (t : FileTree) (installRoot : Path) (layout : ScanLayout) (plain : List String)
    (hasModules : Bool) (inner : List String) : Prop where
  managed : Lists t (layout.managed installRoot) layout.rootPattern plain
  modules : ∃ kind, t.kind? (layout.modules installRoot) = .ok kind ∧
    (kind == some .directory) = hasModules
  inner : if hasModules then Lists t (layout.modules installRoot) layout.modulePattern inner
    else inner = []

/-- The references to the files that a scan has listed. -/
def scanReferences (base : Location) (installRoot : Path) (layout : ScanLayout)
    (plain inner : List String) : List (LibraryReference base) :=
  referencesTo base (layout.managed installRoot) plain ++
    referencesTo base (layout.modules installRoot) inner

/-- What a scan makes of the files that it has listed. -/
def LibraryScan.ofListed (base : Location) (installRoot : Path) (layout : ScanLayout)
    (plain : List String) (hasModules : Bool) (inner : List String) : LibraryScan base :=
  .found (layout.managed installRoot) (layout.modules installRoot) hasModules
    ((scanReferences base installRoot layout plain inner).foldl ReferenceSet.addNew
      ReferenceSet.empty)

/-- What has a listing is a directory. -/
theorem kind?_of_lists {directory : Path} {pattern : String} {files : List String}
    (h : Lists t directory pattern files) : t.kind? directory = .ok (some .directory) := by
  obtain ⟨d, hd, _⟩ := h
  rw [kind?, hd]

/-- A scan that returns has found no directory of managed libraries, or it
has listed what it is made of. -/
theorem scanLibraries_eq_ok_iff {scan : LibraryScan base} :
    outcome (scanLibraries base installRoot layout) t = .ok scan ↔
      (∃ kind, t.kind? (layout.managed installRoot) = .ok kind ∧ kind ≠ some .directory ∧
        scan = .missing (layout.managed installRoot)) ∨
      ∃ plain hasModules inner, Scans t installRoot layout plain hasModules inner ∧
        scan = .ofListed base installRoot layout plain hasModules inner := by
  rw [scanLibraries, (readOnly_isDirectory _).outcome_bind_eq_ok]
  constructor
  · rintro ⟨isThere, hthere, h⟩
    obtain ⟨kind, hkind, rfl⟩ := outcome_isKind_eq_ok_iff.mp hthere
    -- The steps of the scan, undone one after the other.
    by_cases hdirectory : kind = some .directory
    · subst hdirectory
      obtain ⟨plain, hplain, h⟩ := (readOnly_matchingFiles _ _).outcome_bind_eq_ok.mp h
      rw [outcome_matchingFiles_eq_ok_iff] at hplain
      obtain ⟨hasModules, hmodules, h⟩ := (readOnly_isDirectory _).outcome_bind_eq_ok.mp h
      cases hasModules with
      | true =>
          obtain ⟨inner, hinner, h⟩ := (readOnly_matchingFiles _ _).outcome_bind_eq_ok.mp h
          rw [outcome_matchingFiles_eq_ok_iff] at hinner
          cases h
          exact Or.inr ⟨plain, true, inner,
            ⟨hplain, outcome_isKind_eq_ok_iff.mp hmodules, by simpa using hinner⟩, rfl⟩
      | false =>
          cases h
          exact Or.inr ⟨plain, false, [],
            ⟨hplain, outcome_isKind_eq_ok_iff.mp hmodules, by simp⟩, rfl⟩
    · rw [if_neg (by simpa using hdirectory)] at h
      cases h
      exact Or.inl ⟨kind, hkind, hdirectory, rfl⟩
  · rintro (⟨kind, hkind, hdirectory, rfl⟩ | ⟨plain, hasModules, inner, hscans, rfl⟩)
    · refine ⟨_, outcome_isKind_eq_ok_iff.mpr ⟨kind, hkind, rfl⟩, ?_⟩
      rw [if_neg (by simpa using hdirectory)]
      rfl
    · obtain ⟨hplain, hmodules, hinner⟩ := hscans
      refine ⟨true, outcome_isKind_eq_ok_iff.mpr ⟨_, kind?_of_lists hplain, rfl⟩, ?_⟩
      refine (readOnly_matchingFiles _ _).outcome_bind_eq_ok.mpr
        ⟨plain, outcome_matchingFiles_eq_ok_iff.mpr hplain, ?_⟩
      refine (readOnly_isDirectory _).outcome_bind_eq_ok.mpr
        ⟨hasModules, outcome_isKind_eq_ok_iff.mpr hmodules, ?_⟩
      cases hasModules with
      | true =>
          exact (readOnly_matchingFiles _ _).outcome_bind_eq_ok.mpr
            ⟨inner, outcome_matchingFiles_eq_ok_iff.mpr (by simpa using hinner), rfl⟩
      | false =>
          obtain rfl : inner = [] := by simpa using hinner
          rfl

/-- A scan that has listed files gives what is made of them. -/
theorem outcome_of_scans (base : Location) {plain inner : List String} {hasModules : Bool}
    (h : Scans t installRoot layout plain hasModules inner) :
    outcome (scanLibraries base installRoot layout) t =
      .ok (.ofListed base installRoot layout plain hasModules inner) :=
  scanLibraries_eq_ok_iff.mpr (Or.inr ⟨plain, hasModules, inner, h, rfl⟩)

end

end IdeProjects
