import IdeProjects.Proofs.Descriptor.Collisions
import IdeProjects.Proofs.Path.FileName

/-!
# `IdeProjects.Proofs.Library.DisplayName`: the name shown for a library

A project file shows a library under the name of its file without the
extension. Paths are cut by the rules of one family of systems, though, and
there a path may be no more than a share, or begin with a drive. A file whose
path looks like that loses its name, or a colon at its front
(`LibraryFile.IsMistaken`), and then the name that is shown is not the stem of
the file name. For all other files it is (`displayName_isStem_iff`).

Where names are lost, libraries can be lost too: two of them that are read as
shares have the empty name, and a project file that lists one library of each
name has the later one only (`displayName_not_isStem_share`).
-/

set_option autoImplicit false

namespace IdeProjects

/-- A library file in a directory, as it is written in a path. -/
structure LibraryFile where
  directory : String
  slash : Char
  name : String
  isSlash_slash : FileName.isSlash slash = true := by decide
  name_ne_empty : name ≠ "" := by decide
  any_isSlash_name : name.toList.any FileName.isSlash = false := by decide

namespace LibraryFile

/-- The reference to the file. -/
def reference (f : LibraryFile) (base : Location) : LibraryReference base :=
  ⟨f.directory ++ String.singleton f.slash ++ f.name⟩

/-- The path of the file is read as a share from beginning to end. -/
def IsShare (f : LibraryFile) : Prop :=
  FileName.IsShareOnly (f.directory.toList ++ [f.slash])

/-- The first slash and a colon behind it are read as a drive. -/
def IsDrive (f : LibraryFile) : Prop :=
  f.directory = "" ∧ f.name.toList.head? = some ':'

/-- What is read as a share or a drive takes from the name of the file. -/
def IsMistaken (f : LibraryFile) : Prop := f.IsShare ∨ f.IsDrive

instance (f : LibraryFile) : Decidable f.IsShare :=
  inferInstanceAs (Decidable (FileName.IsShareOnly _))

instance (f : LibraryFile) : Decidable f.IsDrive := inferInstanceAs (Decidable (_ ∧ _))

instance (f : LibraryFile) : Decidable f.IsMistaken := inferInstanceAs (Decidable (_ ∨ _))

variable (base : Location) (f : LibraryFile)

/-- A file name has no slash of either kind. -/
theorem not_isSlash_name : ∀ c ∈ f.name.toList, FileName.isSlash c = false := by
  intro c hc
  exact Bool.eq_false_iff.mpr (List.any_eq_false.mp f.any_isSlash_name c hc)

/-- A file name has a character. -/
theorem toList_name_ne_nil : f.name.toList ≠ [] := by
  intro h
  exact f.name_ne_empty (String.toList_eq_nil_iff.mp h)

/-- What is left of the name where the path is cut. -/
theorem toList_displayName :
    (f.reference base).displayName.toList =
      FileName.stem (if f.IsShare then [] else if f.IsDrive then f.name.toList.tail
        else f.name.toList) := by
  have hpath : (f.reference base).path.toList = f.directory.toList ++ f.slash :: f.name.toList := by
    simp [reference]
  have hdrive : f.IsDrive ↔ f.directory.toList = [] ∧ f.name.toList.head? = some ':' := by
    rw [IsDrive, String.toList_eq_nil_iff]
  rw [LibraryReference.displayName, String.toList_ofList, hpath,
    FileName.lastPart_append f.isSlash_slash f.not_isSlash_name]
  simp only [hdrive, IsShare]

/-- A file that is not mistaken is shown under the stem of its name. -/
theorem isStem_displayName (h : ¬ f.IsMistaken) :
    FileName.IsStem f.name.toList (f.reference base).displayName.toList := by
  rw [IsMistaken, not_or] at h
  rw [toList_displayName, if_neg h.1, if_neg h.2]
  exact FileName.isStem_stem _

/-- Of the path of a share nothing is shown. -/
theorem displayName_of_isShare (h : f.IsShare) : (f.reference base).displayName = "" := by
  rw [← String.toList_eq_nil_iff, toList_displayName, if_pos h]
  rfl

/-- A name loses the colon in front of it, as what looks like a drive. -/
theorem displayName_of_isDrive (h : f.IsDrive) : ∃ rest, f.name.toList = ':' :: rest ∧
    (f.reference base).displayName.toList = FileName.stem rest := by
  obtain ⟨hdirectory, hhead⟩ := h
  obtain ⟨rest, hname⟩ := List.head?_eq_some_iff.mp hhead
  -- A share begins with two slashes, and here the second character is a colon.
  have hshare : ¬ f.IsShare := by
    intro hshare
    rw [IsShare, hdirectory] at hshare
    exact absurd hshare.1 (by simp [FileName.startsShare])
  refine ⟨rest, hname, ?_⟩
  rw [toList_displayName, if_neg hshare, if_pos ⟨hdirectory, hhead⟩, hname, List.tail_cons]

/-- The name that is shown is the stem of the file name exactly if the path is
not mistaken. -/
theorem isStem_displayName_iff :
    FileName.IsStem f.name.toList (f.reference base).displayName.toList ↔ ¬ f.IsMistaken := by
  refine ⟨?_, f.isStem_displayName base⟩
  rintro hstem (hshare | hdrive)
  · refine hstem.ne_nil f.toList_name_ne_nil ?_
    rw [f.displayName_of_isShare base hshare]
    rfl
  · obtain ⟨rest, hname, hshown⟩ := f.displayName_of_isDrive base hdrive
    rw [hname, hshown] at hstem
    exact FileName.not_isStem_cons (by decide) rest hstem

/-- The name that is shown is empty for a share, and where a colon is all of
it. -/
theorem displayName_eq_empty_iff :
    (f.reference base).displayName = "" ↔ f.IsShare ∨ f.directory = "" ∧ f.name = ":" := by
  constructor
  · intro hempty
    have hnil : (f.reference base).displayName.toList = [] := by
      rw [hempty]
      rfl
    by_cases hmistaken : f.IsMistaken
    · rcases hmistaken with hshare | hdrive
      · exact Or.inl hshare
      · obtain ⟨rest, hname, hshown⟩ := f.displayName_of_isDrive base hdrive
        rw [hnil] at hshown
        -- A name behind the colon would have a stem.
        have hrest : rest = [] := by
          by_contra hne
          exact (FileName.isStem_stem rest).ne_nil hne hshown.symm
        refine Or.inr ⟨hdrive.1, ?_⟩
        rw [← String.toList_inj, hname, hrest]
        rfl
    · have hstem := f.isStem_displayName base hmistaken
      exact absurd hnil (hstem.ne_nil f.toList_name_ne_nil)
  · rintro (hshare | ⟨hdirectory, hname⟩)
    · exact f.displayName_of_isShare base hshare
    · obtain ⟨rest, hcolon, hshown⟩ :=
        f.displayName_of_isDrive base ⟨hdirectory, by rw [hname]; rfl⟩
      have hrest : rest = [] := by
        rw [hname] at hcolon
        exact (List.cons.inj hcolon).2.symm
      rw [← String.toList_eq_nil_iff, hshown, hrest]
      rfl

end LibraryFile

/-- A library is shown under the stem of its file name exactly if its path is
not mistaken for a share or a drive, and under no name only where it is. Where
one library of each name is listed, two that are not mistaken push each other
out exactly if their stems are the same up to case. -/
theorem displayName_isStem_iff (base : Location) :
    (∀ f : LibraryFile,
      (FileName.IsStem f.name.toList (f.reference base).displayName.toList ↔ ¬ f.IsMistaken) ∧
      ((f.reference base).displayName = "" ↔ f.IsShare ∨ f.directory = "" ∧ f.name = ":")) ∧
    ∀ f g : LibraryFile, ¬ f.IsMistaken → ¬ g.IsMistaken → ∀ s t : List Char,
      FileName.IsStem f.name.toList s → FileName.IsStem g.name.toList t →
      (Displaces (f.reference base) (g.reference base) ↔
        f.reference base ≠ g.reference base ∧ Text.foldChars s = Text.foldChars t) := by
  refine ⟨fun f => ⟨f.isStem_displayName_iff base, f.displayName_eq_empty_iff base⟩, ?_⟩
  intro f g hf hg s t hs ht
  -- A name has one stem, and that is what is shown and folded.
  have hfirst : (f.reference base).displayName.toList = s :=
    (f.isStem_displayName base hf).eq_stem.trans hs.eq_stem.symm
  have hsecond : (g.reference base).displayName.toList = t :=
    (g.isStem_displayName base hg).eq_stem.trans ht.eq_stem.symm
  rw [displaces_iff, LibraryReference.nameKey, LibraryReference.nameKey, ← String.toList_inj,
    Text.toList_fold, Text.toList_fold, hfirst, hsecond]

/-- A directory on a share and one on a drive are no part of the names, so the
two libraries there displace each other. A name with dots at the front only
has no extension. -/
theorem displayName_isStem_share_and_drive :
    let f : LibraryFile := { directory := "\\\\server\\share", slash := '/', name := "Foo.Bar.dll" }
    let g : LibraryFile := { directory := "D:", slash := '\\', name := "foo.BAR.dll" }
    let h : LibraryFile := { directory := "", slash := '/', name := "..hidden" }
    (¬ f.IsMistaken ∧ ¬ g.IsMistaken ∧ ¬ h.IsMistaken) ∧
    FileName.IsStem f.name.toList (f.reference ["w"]).displayName.toList ∧
    Displaces (f.reference ["w"]) (g.reference ["w"]) ∧
    ¬ Displaces (f.reference ["w"]) (h.reference ["w"]) := by
  intro f g h
  have hf : ¬ f.IsMistaken := by decide +kernel
  have hg : ¬ g.IsMistaken := by decide +kernel
  have hh : ¬ h.IsMistaken := by decide +kernel
  obtain ⟨hstem, hdisplaces⟩ := displayName_isStem_iff ["w"]
  refine ⟨⟨hf, hg, hh⟩, (hstem f).1.mpr hf, ?_, ?_⟩
  · rw [hdisplaces f g hf hg _ _ (FileName.isStem_stem _) (FileName.isStem_stem _)]
    decide +kernel
  · rw [hdisplaces f h hf hh _ _ (FileName.isStem_stem _) (FileName.isStem_stem _)]
    decide +kernel

/-- Two files in directories that look like the beginning of a share have no
name, and the first one is lost. -/
theorem displayName_not_isStem_share :
    let f : LibraryFile := { directory := "//", slash := '/', name := "A.dll" }
    let g : LibraryFile := { directory := "//lib", slash := '/', name := "B.dll" }
    let r := f.reference ["vroot", "proj"]
    let s := g.reference ["vroot", "proj"]
    (FileName.IsStem f.name.toList ['A'] ∧ r.displayName = "" ∧
      ¬ FileName.IsStem f.name.toList r.displayName.toList) ∧
    (FileName.IsStem g.name.toList ['B'] ∧ s.displayName = "" ∧
      ¬ FileName.IsStem g.name.toList s.displayName.toList) ∧
    Text.foldChars ['A'] ≠ Text.foldChars ['B'] ∧ selectReferences .overwrite [r, s] = [s] := by
  simp only [FileName.isStem_iff]
  decide +kernel

end IdeProjects
