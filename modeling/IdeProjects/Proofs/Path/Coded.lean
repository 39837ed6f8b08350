import IdeProjects.Config.Basic
import IdeProjects.Proofs.Json.Coded
import IdeProjects.Proofs.Lists
import IdeProjects.Proofs.Path.Spelling

/-!
# `IdeProjects.Proofs.Path.Coded`: which paths of documents have a place

The host is asked about one part of a path after the other, so whether a path
has a place comes down to its parts: each has to be a name that the host can
be asked about, with a byte for every half of a pair (`IsEncodable`) and
without a null character (`resolveCoded_eq_ok_iff`). The parts hold all halves
of the text of a path, so for these the text decides (`isEncodable_ofCodes_iff`).

A path of characters is read in the same way wherever it comes from: with all
its codes it has the place of its characters, or fails as they do
(`resolveCoded_coded`).
-/

set_option autoImplicit false

namespace IdeProjects

namespace CodeText

/-- Every half of a pair in the text stands for a byte. -/
def IsEncodable (t : CodeText) : Prop :=
  ∀ offset, Code.half offset ∈ t.codes → Code.standsForByte offset = true

/-- The text has a null character. -/
def HasNull (t : CodeText) : Prop := Code.char '\x00' ∈ t.codes

/-- A text of characters has no halves that could be without a byte. -/
theorem isEncodable_ofString (s : String) : (ofString s).IsEncodable := by
  intro offset hmem
  obtain ⟨c, _, hc⟩ := List.mem_map.mp hmem
  cases hc

/-- A text of characters has a null character as a row of codes if it has one
as it is. -/
theorem hasNull_ofString_iff (s : String) : (ofString s).HasNull ↔ '\x00' ∈ s.toList := by
  simp [HasNull, ofString]

end CodeText

/-- No half is without a byte if each of them stands for one. -/
theorem Code.firstHalves?_eq_none_iff {codes : List Code} :
    firstHalves? codes = none ↔ ∀ offset, .half offset ∈ codes → standsForByte offset = true := by
  induction codes with
  | nil => simp [firstHalves?]
  | cons code rest ih =>
      cases code with
      | char c => simp [firstHalves?, ih]
      | half offset =>
          by_cases hbyte : standsForByte offset = true
          · simp [firstHalves?, hbyte, ih]
          · simp [firstHalves?, hbyte]

namespace Path

/-! ### Questions to the host -/

section

variable {absolute : Bool} {before parts : List CodeText} {part : CodeText} {fault : Fault}

/-- A part is not turned down if its halves stand for bytes and it has no null
character. -/
theorem partFault?_eq_none_iff :
    partFault? absolute before part = none ↔ part.IsEncodable ∧ ¬ part.HasNull := by
  rw [CodeText.IsEncodable, ← Code.firstHalves?_eq_none_iff, partFault?, CodeText.HasNull]
  cases Code.firstHalves? part.codes with
  | some found => simp
  | none => simp

/-- Of the two reasons to turn a part down, halves without bytes come first:
the part is encoded before the host looks at it. -/
theorem partFault?_eq_some (h : partFault? absolute before part = some fault) :
    (¬ part.IsEncodable ∧ ∃ malformed, fault = .encoding malformed) ∨
      part.IsEncodable ∧ part.HasNull ∧ fault = .nullCharacter := by
  rw [CodeText.IsEncodable, ← Code.firstHalves?_eq_none_iff, CodeText.HasNull]
  rw [partFault?] at h
  cases hhalves : Code.firstHalves? part.codes with
  | some found =>
      rw [hhalves] at h
      cases h
      exact Or.inl ⟨nofun, _, rfl⟩
  | none =>
      rw [hhalves] at h
      dsimp only at h
      split at h
      · rename_i hnull
        cases h
        exact Or.inr ⟨rfl, by simpa using hnull, rfl⟩
      · cases h

/-- What goes back is itself no name that is turned down. -/
theorem partFault?_up : partFault? absolute before up = none := by
  refine partFault?_eq_none_iff.mpr ⟨CodeText.isEncodable_ofString _, ?_⟩
  rw [up, CodeText.hasNull_ofString_iff]
  decide

/-- The parts are turned down for one of them, whatever stands before it. -/
theorem faultAfter?_eq_none_iff :
    faultAfter? absolute before parts = none ↔
      ∀ part ∈ parts, part.IsEncodable ∧ ¬ part.HasNull := by
  induction parts generalizing before with
  | nil => simp [faultAfter?]
  | cons part rest ih =>
      rw [faultAfter?, List.forall_mem_cons, ← @partFault?_eq_none_iff absolute before]
      by_cases hup : part = up
      · rw [if_pos hup, ih, hup]
        simp [partFault?_up]
      · rw [if_neg hup]
        cases partFault? absolute before part with
        | some fault => simp
        | none => simp [ih]

/-- What the parts are turned down for is the fault of one of them. -/
theorem exists_partFault?_of_faultAfter? (h : faultAfter? absolute before parts = some fault) :
    ∃ part ∈ parts, ∃ earlier, partFault? absolute earlier part = some fault := by
  induction parts generalizing before with
  | nil => cases h
  | cons part rest ih =>
      rw [faultAfter?] at h
      split at h
      · obtain ⟨other, hother, hfault⟩ := ih h
        exact ⟨other, List.mem_cons_of_mem _ hother, hfault⟩
      · split at h
        · rename_i hfault
          cases h
          exact ⟨part, List.mem_cons_self, before, hfault⟩
        · obtain ⟨other, hother, hfault⟩ := ih h
          exact ⟨other, List.mem_cons_of_mem _ hother, hfault⟩

end

section

variable {base : Location} {p : Path CodeText} {fault : Fault}

/-- A path has a place if the host can be asked about all its parts. -/
theorem resolveCoded_eq_ok_iff {place : Location CodeText} :
    resolveCoded base p = .ok place ↔
      (∀ part ∈ p.parts, part.IsEncodable ∧ ¬ part.HasNull) ∧
        place = p.locate (base.map .ofString) := by
  rw [← @faultAfter?_eq_none_iff p.isAbsolute [], resolveCoded]
  cases faultAfter? p.isAbsolute [] p.parts with
  | some fault => simp
  | none => simp [eq_comm]

/-- A path is turned down for one of its parts. -/
theorem resolveCoded_error (h : resolveCoded base p = .error fault) :
    ∃ part ∈ p.parts, (¬ part.IsEncodable ∧ ∃ malformed, fault = .encoding malformed) ∨
      part.IsEncodable ∧ part.HasNull ∧ fault = .nullCharacter := by
  rw [resolveCoded] at h
  split at h
  · rename_i hfault
    cases h
    obtain ⟨part, hpart, earlier, hpartFault⟩ := exists_partFault?_of_faultAfter? hfault
    exact ⟨part, hpart, partFault?_eq_some hpartFault⟩
  · cases h

end

/-! ### Paths from texts -/

/-- What is cut at a code loses this code alone. -/
theorem exists_mem_splitOn_iff {code separator : Code} (h : code ≠ separator) (codes : List Code) :
    (∃ part ∈ codes.splitOn separator, code ∈ part) ↔ code ∈ codes := by
  induction codes with
  | nil => simp
  | cons first rest ih =>
      rw [List.splitOn_cons_eq_if_modifyHead]
      by_cases hfirst : first = separator
      · simp [hfirst, ih, h]
      · cases hrest : rest.splitOn separator with
        | nil => exact absurd hrest (List.splitOn_ne_nil _ _)
        | cons part more =>
            rw [hrest] at ih
            simp [hfirst, ← ih, or_assoc]

/-- The halves of pairs in the parts of a path are those of its text. A
stretch that is dropped, empty or a dot, has none. -/
theorem isEncodable_ofCodes_iff (t : CodeText) :
    (∀ part ∈ (ofCodes t).parts, part.IsEncodable) ↔ t.IsEncodable := by
  have hmem : ∀ offset, (∃ part ∈ (ofCodes t).parts, Code.half offset ∈ part.codes) ↔
      Code.half offset ∈ t.codes := by
    intro offset
    have hslash : Code.half offset ≠ .char '/' := nofun
    rw [← exists_mem_splitOn_iff hslash]
    simp only [ofCodes, List.mem_map, List.mem_filter]
    constructor
    · rintro ⟨_, ⟨part, ⟨hpart, _⟩, rfl⟩, hhalf⟩
      exact ⟨part, hpart, hhalf⟩
    · -- A stretch with a half is neither empty nor a dot.
      rintro ⟨part, hpart, hhalf⟩
      refine ⟨⟨part⟩, ⟨part, ⟨hpart, ?_⟩, rfl⟩, hhalf⟩
      rw [Bool.and_eq_true, bne_iff_ne, bne_iff_ne]
      constructor
      · rintro rfl
        cases hhalf
      · rintro rfl
        simp at hhalf
  constructor
  · intro h offset hoffset
    obtain ⟨part, hpart, hhalf⟩ := (hmem offset).mpr hoffset
    exact h part hpart offset hhalf
  · exact fun h part hpart offset hhalf => h offset ((hmem offset).mp ⟨part, hpart, hhalf⟩)

/-- A directory of characters adds no halves to a path that is read from it. -/
theorem isEncodable_join_iff (directory : Path) (t : CodeText) :
    (∀ part ∈ (directory.coded.join (.ofCodes t)).parts, part.IsEncodable) ↔ t.IsEncodable := by
  have hdirectory : ∀ part ∈ directory.coded.parts, part.IsEncodable := by
    intro part hpart
    obtain ⟨name, _, rfl⟩ := List.mem_map.mp hpart
    exact CodeText.isEncodable_ofString name
  rw [← isEncodable_ofCodes_iff, join]
  split
  · rfl
  · simp only [List.forall_mem_append]
    exact and_iff_right hdirectory

/-- A path read from a directory is read as if the directory were the
working directory. -/
theorem locate_join {τ : Type} [DecidableEq τ] [DocumentText τ] (base : Location τ)
    (directory p : Path τ) :
    (directory.join p).locate base = p.locate (directory.locate base) := by
  rw [join]
  by_cases habs : p.isAbsolute = true
  · rw [if_pos habs, locate, locate, if_pos habs, if_pos habs]
  · rw [if_neg habs, locate, locate, if_neg habs]
    exact List.foldl_append

/-! ### Paths of characters -/

/-- A text of characters has the parts of its characters, for both are cut at
the slashes. -/
theorem ofCodes_ofString (s : String) : ofCodes (.ofString s) = (ofText s).coded := by
  -- Both cut at the same slashes and drop the same parts.
  have hsplit : ∀ cs : List Char, (cs.map Code.char).splitOn (.char '/') =
      (splitSlashes cs).map (List.map Code.char) := by
    intro cs
    induction cs with
    | nil => rfl
    | cons c rest ih =>
        rw [List.map_cons, List.splitOn_cons_eq_if_modifyHead, ih, splitSlashes]
        by_cases hc : c = '/'
        · simp [hc]
        · cases hrest : splitSlashes rest with
          | nil => exact absurd hrest (splitSlashes_ne_nil rest)
          | cons first more => simp [hc]
  have hinjective : Function.Injective (List.map Code.char) :=
    List.map_injective_iff.mpr fun c d => Code.char.inj
  have hpart : ∀ part : List Char,
      ((part.map Code.char) != [] && (part.map Code.char) != [.char '.']) = isPart part := by
    intro part
    have hdot : part.map Code.char = [.char '.'] ↔ part = ['.'] :=
      hinjective.eq_iff' rfl
    simp only [isPart, bne, beq_eq_decide, List.map_eq_nil_iff, hdot]
  have hparts : (ofCodes (.ofString s)).parts = (partsOf s.toList).map .ofString := by
    simp only [ofCodes, CodeText.ofString, hsplit, List.filter_map, List.map_map, partsOf,
      Function.comp_def, hpart, String.toList_ofList]
  have hroot : (ofCodes (.ofString s)).root = (ofText s).root := by
    rw [ofCodes, CodeText.repaired_ofString]
    rfl
  exact Path.mk.injEq .. ▸ ⟨hroot, hparts⟩

/-- A step with a part as a row of codes leads to the same place. -/
theorem step_coded (place : Location) (part : String) :
    step (place.map CodeText.ofString) (.ofString part) = (step place part).map .ofString := by
  have hsame : ∀ name : String, CodeText.ofString part = .ofString name ↔ part = name :=
    fun name => ⟨CodeText.ofString_injective, congrArg CodeText.ofString⟩
  have hstep : step (place.map CodeText.ofString) (.ofString part) =
      if CodeText.ofString part = .ofString ".." then (place.map CodeText.ofString).dropLast
      else if CodeText.ofString part = .ofString "" || CodeText.ofString part = .ofString "." then
        place.map CodeText.ofString
      else place.map CodeText.ofString ++ [CodeText.ofString part] := rfl
  rw [hstep, step_string]
  simp only [hsame]
  split
  · rw [List.map_dropLast]
  · split
    · rfl
    · rw [List.map_append]
      rfl

/-- So does the whole way along a path of characters, by induction on its
parts. -/
theorem locate_coded (base : Location) (p : Path) :
    p.coded.locate (base.map .ofString) = (p.locate base).map .ofString := by
  have hwalk : ∀ (parts : List String) (start : Location),
      walk (start.map CodeText.ofString) (parts.map .ofString) =
        (walk start parts).map .ofString := by
    intro parts
    induction parts with
    | nil => exact fun _ => rfl
    | cons part rest ih =>
        intro start
        rw [List.map_cons, walk, List.foldl_cons, step_coded]
        exact ih _
  unfold locate
  have habs : p.coded.isAbsolute = p.isAbsolute := rfl
  rw [habs]
  split
  · exact hwalk p.parts []
  · exact hwalk p.parts base

/-- A path of characters has one place however its texts are kept, and is
turned down for a null character alone. -/
theorem resolveCoded_coded (base : Location) (p : Path) :
    resolveCoded base p.coded = (resolve base p).map (·.map .ofString) := by
  have hnull : (∀ part ∈ p.coded.parts, part.IsEncodable ∧ ¬ part.HasNull) ↔ p.hasNull = false := by
    simp [coded, CodeText.isEncodable_ofString, CodeText.hasNull_ofString_iff, hasNull]
  rw [resolve]
  cases hresolve : resolveCoded base p.coded with
  | ok place =>
      obtain ⟨hparts, rfl⟩ := resolveCoded_eq_ok_iff.mp hresolve
      rw [hnull.mp hparts, locate_coded]
      rfl
  | error fault =>
      obtain ⟨part, hpart, hbad⟩ := resolveCoded_error hresolve
      obtain ⟨name, hname, rfl⟩ := List.mem_map.mp hpart
      have hencodable := CodeText.isEncodable_ofString name
      rcases hbad with ⟨hhalf, _⟩ | ⟨_, hbad, rfl⟩
      · exact absurd hencodable hhalf
      · have hfound : p.hasNull = true :=
          List.any_eq_true.mpr ⟨name, hname, by
            simpa using (CodeText.hasNull_ofString_iff name).mp hbad⟩
        rw [hfound]
        rfl

end Path

end IdeProjects
