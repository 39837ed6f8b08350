import IdeProjects.Path.FileName
import IdeProjects.Proofs.Text.LetterCase
import Mathlib.Data.List.TakeWhile

/-!
# `IdeProjects.Proofs.Path.FileName`: the file name in a path

Two cuts lead from a path to the name of its file without the extension. The
first one takes the drive or the share off the front, and then everything up
to the last slash. Where the path of a file is read as no more than a share,
nothing is left of it, and a colon right behind the first slash is read as the
end of a drive; all other paths keep the whole name (`lastPart_append`).

The second cut is described by what it leaves (`IsStem`), which is one text
for each name (`isStem_iff`).
-/

set_option autoImplicit false

namespace IdeProjects

namespace FileName

/-! ### What the cuts leave is part of the path -/

/-- A drive or a share is cut off at the front. The cases are those of the
cut: a share with the long mark or the short one, a drive, or neither. -/
theorem afterDrive_suffix (cs : List Char) : afterDrive cs <:+ cs := by
  unfold afterDrive
  split
  · rename_i a b rest
    split
    · extract_lets names
      have hnames : names <:+ a :: b :: rest := by
        simp only [names]
        split
        · exact List.drop_suffix _ _
        · exact ⟨[a, b], rfl⟩
      split
      · exact List.nil_suffix
      · rename_i slash share hshare
        have hafter : share <:+ names := by
          refine List.IsSuffix.trans ?_ (List.dropWhile_suffix (!isSlash ·))
          rw [hshare]
          exact List.suffix_cons slash share
        exact (List.dropWhile_suffix _).trans (hafter.trans hnames)
    · split
      · exact ⟨[a, b], rfl⟩
      · exact List.suffix_rfl
  · exact List.suffix_rfl

/-- The cuts leave characters of the path. -/
theorem mem_of_mem_lastPart {c : Char} {cs : List Char} (h : c ∈ lastPart cs) : c ∈ cs := by
  have htaken := (List.takeWhile_sublist _).subset (List.mem_reverse.mp h)
  exact (afterDrive_suffix cs).subset (List.mem_reverse.mp htaken)

/-- So does the cut of the extension. -/
theorem mem_of_mem_stem {c : Char} {cs : List Char} (h : c ∈ stem cs) : c ∈ cs := by
  unfold stem at h
  split at h
  · exact h
  · rename_i dot before hdot
    split at h
    · exact h
    · have hrest : c ∈ cs.reverse.dropWhile (· != '.') := by
        rw [hdot]
        exact List.mem_cons_of_mem dot (List.mem_reverse.mp h)
      exact List.mem_reverse.mp ((List.dropWhile_suffix _).subset hrest)

/-! ### The names of a share -/

/-- Two slashes at the front begin a share. -/
def startsShare : List Char → Bool
  | a :: b :: _ => isSlash a && isSlash b
  | _ => false

/-- A path that begins a share, from the name of the server on. -/
def shareNames (cs : List Char) : List Char :=
  if startsLongShare cs then cs.drop 8 else cs.drop 2

/-- What follows the names of a server and a share. -/
def afterNames (names : List Char) : List Char :=
  match names.dropWhile (!isSlash ·) with
  | [] => []
  | _ :: share => share.dropWhile (!isSlash ·)

/-- Of the path of a share the names of the server and the share are cut off.
-/
theorem afterDrive_of_startsShare {cs : List Char} (h : startsShare cs = true) :
    afterDrive cs = afterNames (shareNames cs) := by
  match cs, h with
  | a :: b :: rest, h =>
    rw [startsShare] at h
    rw [afterDrive, if_pos h, shareNames]
    rfl

/-- Dropping what stands before a slash drops no slash. -/
theorem countP_dropWhile_slash (cs : List Char) :
    (cs.dropWhile (!isSlash ·)).countP isSlash = cs.countP isSlash := by
  induction cs with
  | nil => rfl
  | cons c cs ih =>
      cases hc : isSlash c with
      | true => simp [hc]
      | false => simp [hc, ih]

/-- What is left after names begins with the slash that ended the last one. -/
theorem head_dropWhile_slash {cs rest : List Char} {c : Char}
    (h : cs.dropWhile (!isSlash ·) = c :: rest) : isSlash c = true := by
  have hhead := List.head?_dropWhile_not (!isSlash ·) cs
  rw [h] at hhead
  simpa using hhead

/-- Both names end with a slash if anything is left. -/
theorem afterNames_eq_nil_iff (names : List Char) :
    afterNames names = [] ↔ names.countP isSlash < 2 := by
  rw [← countP_dropWhile_slash, afterNames]
  cases hserver : names.dropWhile (!isSlash ·) with
  | nil => simp
  | cons slash share =>
      have hslash := head_dropWhile_slash hserver
      rw [List.countP_cons_of_pos hslash]
      have hnil : share.dropWhile (!isSlash ·) = [] ↔ share.countP isSlash = 0 := by
        rw [List.dropWhile_eq_nil_iff, List.countP_eq_zero]
        simp
      show share.dropWhile (!isSlash ·) = [] ↔ _
      rw [hnil]
      omega

/-- What is left after both names has a slash. -/
theorem exists_slash_afterNames {names : List Char} (h : afterNames names ≠ []) :
    ∃ c ∈ afterNames names, isSlash c = true := by
  rw [afterNames] at h ⊢
  cases hserver : names.dropWhile (!isSlash ·) with
  | nil => simp [hserver] at h
  | cons slash share =>
      rw [hserver] at h
      obtain ⟨c, rest, hrest⟩ := List.exists_cons_of_ne_nil h
      exact ⟨c, by simp [hrest], head_dropWhile_slash hrest⟩

/-! ### The name of a file in a directory -/

/-- A path of slashes and names that is read as a share from beginning to
end: there are fewer than two names with slashes behind them. -/
def IsShareOnly (cs : List Char) : Prop :=
  startsShare cs = true ∧ (shareNames cs).countP isSlash < 2

instance (cs : List Char) : Decidable (IsShareOnly cs) := inferInstanceAs (Decidable (_ ∧ _))

section

variable {directory file : List Char} {slash : Char}

/-- Of what is left at the front the name is the part behind the last
slash. -/
theorem takeWhile_suffix (hslash : isSlash slash = true) (hfile : ∀ c ∈ file, isSlash c = false)
    {cs : List Char} (hsuffix : cs <:+ directory ++ slash :: file)
    (hcs : ∃ c ∈ cs, isSlash c = true) : (cs.reverse.takeWhile (!isSlash ·)).reverse = file := by
  obtain ⟨front, hfront⟩ := hsuffix
  have hwhole : (directory ++ slash :: file).reverse =
      file.reverse ++ slash :: directory.reverse := by
    simp
  have hname : (directory ++ slash :: file).reverse.takeWhile (!isSlash ·) = file.reverse := by
    rw [hwhole, List.takeWhile_append_of_pos (by simpa using hfile)]
    simp [hslash]
  -- A slash in `cs` ends the name before the front is reached.
  have hends : (front ++ cs).reverse.takeWhile (!isSlash ·) =
      cs.reverse.takeWhile (!isSlash ·) := by
    rw [List.reverse_append, List.takeWhile_append, if_neg]
    intro hall
    obtain ⟨c, hc, hcslash⟩ := hcs
    have hmem := (List.takeWhile_prefix (!isSlash ·)).eq_of_length hall
    rw [List.takeWhile_eq_self_iff] at hmem
    have hno := hmem c (List.mem_reverse.mpr hc)
    rw [hcslash] at hno
    exact absurd hno (by decide)
  rw [← hends, hfront, hname, List.reverse_reverse]

/-- What is left without a slash is the name. -/
theorem takeWhile_of_no_slash {cs : List Char} (hcs : ∀ c ∈ cs, isSlash c = false) :
    (cs.reverse.takeWhile (!isSlash ·)).reverse = cs := by
  rw [List.takeWhile_eq_self_iff.mpr (by simpa using hcs), List.reverse_reverse]

/-- The file name has no part in the mark of a share. -/
theorem startsShare_append (hfile : ∀ c ∈ file, isSlash c = false) :
    startsShare (directory ++ slash :: file) = startsShare (directory ++ [slash]) := by
  match directory, file with
  | [], [] => rfl
  | [], c :: file =>
    have hc := hfile c List.mem_cons_self
    simp [startsShare, hc]
  | [a], file => rfl
  | a :: b :: others, file => rfl

/-- The mark of a long share ends with a slash. -/
theorem slash_of_startsLongShare {cs : List Char} (h : startsLongShare cs = true) :
    ∃ c, cs[7]? = some c ∧ isSlash c = true := by
  rw [startsLongShare, beq_iff_eq] at h
  have heighth : ((cs.take 8).map fun c => if isSlash c then '\\' else c.toUpper)[7]? =
      some '\\' := by
    rw [h]
    rfl
  rw [List.getElem?_map, List.getElem?_take_of_lt (by decide), Option.map_eq_some_iff] at heighth
  obtain ⟨c, hc, hmark⟩ := heighth
  refine ⟨c, hc, ?_⟩
  by_cases hslash : isSlash c = true
  · exact hslash
  · -- No letter has the backslash for its capital.
    rw [if_neg hslash, Text.toUpper_eq_iff (by decide)] at hmark
    rw [hmark]
    rfl

/-- The long mark of a share has eight characters. -/
theorem length_of_startsLongShare {cs : List Char} (h : startsLongShare cs = true) :
    8 ≤ cs.length := by
  obtain ⟨c, hc, _⟩ := slash_of_startsLongShare h
  obtain ⟨hlt, _⟩ := List.getElem?_eq_some_iff.mp hc
  omega

/-- A file name behind the last slash decides nothing about the long mark,
which ends with a slash. -/
theorem startsLongShare_append (hfile : ∀ c ∈ file, isSlash c = false) :
    startsLongShare (directory ++ slash :: file) = startsLongShare (directory ++ [slash]) := by
  have hsplit : directory ++ slash :: file = (directory ++ [slash]) ++ file := by simp
  rw [hsplit]
  by_cases hlong : 8 ≤ (directory ++ [slash]).length
  · rw [startsLongShare, startsLongShare, List.take_append_of_le_length hlong]
  · -- The eighth character would be one of the file name, which has no slash.
    have hlead : startsLongShare (directory ++ [slash]) = false := by
      rw [Bool.eq_false_iff]
      intro h
      exact hlong (length_of_startsLongShare h)
    rw [hlead, Bool.eq_false_iff]
    intro h
    obtain ⟨c, hc, hslash⟩ := slash_of_startsLongShare h
    rw [List.getElem?_append_right (by omega)] at hc
    rw [hfile c (List.mem_of_getElem? hc)] at hslash
    exact absurd hslash (by decide)

/-- A file name behind the last slash stands behind the names of the share. -/
theorem shareNames_append (hstarts : startsShare (directory ++ [slash]) = true)
    (hfile : ∀ c ∈ file, isSlash c = false) :
    shareNames (directory ++ slash :: file) = shareNames (directory ++ [slash]) ++ file := by
  have hsplit : directory ++ slash :: file = (directory ++ [slash]) ++ file := by simp
  have htwo : 2 ≤ (directory ++ [slash]).length := by
    match directory, hstarts with
    | a :: others, _ => simp
  rw [shareNames, shareNames, startsLongShare_append hfile, hsplit]
  by_cases hlong : startsLongShare (directory ++ [slash]) = true
  · rw [if_pos hlong, if_pos hlong,
      List.drop_append_of_le_length (length_of_startsLongShare hlong)]
  · rw [if_neg hlong, if_neg hlong, List.drop_append_of_le_length htwo]

/-- A path without the mark of a share loses a drive at most. The colon of the
drive may be the one behind the first character, which is then the slash in
front of the file. -/
theorem afterDrive_of_not_startsShare (hslash : isSlash slash = true)
    (hstarts : startsShare (directory ++ slash :: file) = false) :
    afterDrive (directory ++ slash :: file) =
      if directory = [] ∧ file.head? = some ':' then file.tail
      else if directory[1]? = some ':' then directory.drop 2 ++ slash :: file
      else directory ++ slash :: file := by
  have hcolon : slash ≠ ':' := by
    rintro rfl
    exact absurd hslash (by decide)
  match directory, file with
  | [], [] => rfl
  | [], c :: file =>
    rw [List.nil_append, startsShare] at hstarts
    by_cases hc : c = ':'
    · simp [afterDrive, hc, isSlash]
    · simp [afterDrive, hstarts, hc]
  | [a], file =>
    rw [List.singleton_append, startsShare] at hstarts
    simp [afterDrive, hstarts, hcolon]
  | a :: b :: others, file =>
    rw [List.cons_append, List.cons_append, startsShare] at hstarts
    by_cases hb : b = ':'
    · simp [afterDrive, hb, isSlash]
    · simp [afterDrive, hstarts, hb]

/-- On a share the name of a file is kept if a directory stands before it.
Otherwise the slash before the file is one of the two that the names of the
server and the share end at. -/
theorem lastPart_of_startsShare (hslash : isSlash slash = true)
    (hfile : ∀ c ∈ file, isSlash c = false)
    (hstarts : startsShare (directory ++ [slash]) = true) :
    lastPart (directory ++ slash :: file) =
      if (shareNames (directory ++ [slash])).countP isSlash < 2 then [] else file := by
  have hsuffix := afterDrive_suffix (directory ++ slash :: file)
  have hafter : afterDrive (directory ++ slash :: file) =
      afterNames (shareNames (directory ++ [slash]) ++ file) := by
    rw [afterDrive_of_startsShare ((startsShare_append hfile).trans hstarts),
      shareNames_append hstarts hfile]
  have hnone : file.countP isSlash = 0 := List.countP_eq_zero.mpr (by simpa using hfile)
  have hempty : afterNames (shareNames (directory ++ [slash]) ++ file) = [] ↔
      (shareNames (directory ++ [slash])).countP isSlash < 2 := by
    rw [afterNames_eq_nil_iff, List.countP_append, hnone, Nat.add_zero]
  rw [hafter] at hsuffix
  rw [lastPart, hafter]
  by_cases hshare : (shareNames (directory ++ [slash])).countP isSlash < 2
  · rw [if_pos hshare, hempty.mpr hshare]
    rfl
  · rw [if_neg hshare]
    have hleft := exists_slash_afterNames (mt hempty.mp hshare)
    exact takeWhile_suffix hslash hfile hsuffix hleft

/-- Elsewhere the name of a file is kept, if it is not cut as a drive is. -/
theorem lastPart_of_not_startsShare (hslash : isSlash slash = true)
    (hfile : ∀ c ∈ file, isSlash c = false)
    (hstarts : startsShare (directory ++ [slash]) = false) :
    lastPart (directory ++ slash :: file) =
      if directory = [] ∧ file.head? = some ':' then file.tail else file := by
  have hsuffix := afterDrive_suffix (directory ++ slash :: file)
  have hafter := afterDrive_of_not_startsShare hslash ((startsShare_append hfile).trans hstarts)
  rw [lastPart]
  by_cases hcolon : directory = [] ∧ file.head? = some ':'
  · rw [if_pos hcolon] at hafter ⊢
    rw [hafter]
    exact takeWhile_of_no_slash fun c hc => hfile c (List.mem_of_mem_tail hc)
  · rw [if_neg hcolon] at hafter ⊢
    refine takeWhile_suffix hslash hfile hsuffix ⟨slash, ?_, hslash⟩
    rw [hafter]
    split <;> simp

/-- The whole name of a file is kept, unless its path is read as a share from
beginning to end, or the name follows the first slash of all and begins with a
colon. -/
theorem lastPart_append (hslash : isSlash slash = true) (hfile : ∀ c ∈ file, isSlash c = false) :
    lastPart (directory ++ slash :: file) =
      if IsShareOnly (directory ++ [slash]) then []
      else if directory = [] ∧ file.head? = some ':' then file.tail
      else file := by
  cases hstarts : startsShare (directory ++ [slash]) with
  | true =>
      have hdirectory : directory ≠ [] := by
        rintro rfl
        exact absurd hstarts (by simp [startsShare])
      rw [lastPart_of_startsShare hslash hfile hstarts]
      simp [IsShareOnly, hstarts, hdirectory]
  | false =>
      rw [lastPart_of_not_startsShare hslash hfile hstarts]
      simp [IsShareOnly, hstarts]

end

/-! ### The stem of a name -/

/-- What is left of a file name without its extension. Dots at the front open
no extension. -/
inductive IsStem : (name stem : List Char) → Prop
  /-- The last dot opens the extension, if something other than dots stands
  before it. -/
  | cut (stem extension : List Char) (hstem : ∃ c ∈ stem, c ≠ '.') (hextension : '.' ∉ extension) :
      IsStem (stem ++ '.' :: extension) stem
  /-- A name with no dot but those at the front is its own stem. -/
  | whole (dots rest : List Char) (hdots : ∀ c ∈ dots, c = '.') (hrest : '.' ∉ rest) :
      IsStem (dots ++ rest) (dots ++ rest)

/-- What has no dot is dropped from the end before any dot is met. -/
theorem dropWhile_dot_append {cs extension : List Char} (hextension : '.' ∉ extension) :
    (cs ++ extension).reverse.dropWhile (· != '.') = cs.reverse.dropWhile (· != '.') := by
  have hall : ∀ c ∈ extension.reverse, (c != '.') = true := by
    intro c hc
    rw [bne_iff_ne]
    exact ne_of_mem_of_not_mem (List.mem_reverse.mp hc) hextension
  rw [List.reverse_append, List.dropWhile_append_of_pos hall]

/-- A stem is what the cut leaves: the two kinds of stems are the two cases of
the cut. -/
theorem IsStem.eq_stem {name s : List Char} (h : IsStem name s) : s = stem name := by
  cases h with
  | cut _ extension hstem hextension =>
      -- From the end, the dot of the extension is the first one.
      have hcut : (s ++ '.' :: extension).reverse.dropWhile (· != '.') = '.' :: s.reverse := by
        rw [List.append_cons, dropWhile_dot_append hextension]
        simp
      have hother : s.reverse.all (· == '.') = false := by
        rw [List.all_reverse, List.all_eq_false]
        simpa using hstem
      rw [stem, hcut]
      simp [hother]
  | whole dots rest hdots hrest =>
      rw [stem, dropWhile_dot_append hrest]
      -- What is left in front are dots alone, which begin no extension.
      cases hreverse : dots.reverse with
      | nil => simp
      | cons dot before =>
          have hdot : ∀ c ∈ dot :: before, c = '.' := by
            intro c hc
            rw [← hreverse] at hc
            exact hdots c (List.mem_reverse.mp hc)
          have hbefore : before.all (· == '.') = true := by
            rw [List.all_eq_true]
            intro c hc
            exact beq_iff_eq.mpr (hdot c (List.mem_cons_of_mem dot hc))
          rw [hdot dot List.mem_cons_self]
          simp [hbefore]

/-- What the cut leaves is a stem. Whether something was cut is decided by
what stands before the last dot. -/
theorem isStem_stem (name : List Char) : IsStem name (stem name) := by
  cases hcut : name.reverse.dropWhile (· != '.') with
  | nil =>
      have hnone : '.' ∉ name := by
        intro hdot
        rw [List.dropWhile_eq_nil_iff] at hcut
        exact absurd (hcut '.' (List.mem_reverse.mpr hdot)) (by decide)
      have hself : stem name = name := by rw [stem, hcut]
      rw [hself]
      exact .whole [] name (by simp) hnone
  | cons dot before =>
      have hdot : dot = '.' := by
        have hhead := List.head?_dropWhile_not (· != '.') name.reverse
        rw [hcut] at hhead
        simpa using hhead
      -- What was dropped from the end is the extension.
      obtain ⟨extension, hsplit, hextension⟩ :
          ∃ extension, name = before.reverse ++ '.' :: extension ∧ '.' ∉ extension := by
        refine ⟨(name.reverse.takeWhile (· != '.')).reverse, ?_, ?_⟩
        · have hwhole := List.takeWhile_append_dropWhile (p := (· != '.')) (l := name.reverse)
          rw [hcut, hdot] at hwhole
          simpa using congrArg List.reverse hwhole.symm
        · intro hmem
          exact absurd (List.mem_takeWhile_imp (List.mem_reverse.mp hmem)) (by decide)
      by_cases hall : before.all (· == '.') = true
      · have hself : stem name = name := by
          rw [stem, hcut]
          simp [hall]
        have hdots : ∀ c ∈ before.reverse ++ ['.'], c = '.' := by
          simpa [or_imp, forall_and] using hall
        rw [hself, hsplit, List.append_cons]
        exact .whole _ extension hdots hextension
      · have hstem : stem name = before.reverse := by
          rw [stem, hcut]
          simp [hall]
        rw [hstem, hsplit]
        exact .cut _ extension (by simpa using hall) hextension

/-- Each name has one stem. -/
theorem isStem_iff {name s : List Char} : IsStem name s ↔ s = stem name := by
  constructor
  · exact IsStem.eq_stem
  · rintro rfl
    exact isStem_stem name

/-- The stem of a name is not empty, for dots alone are their own stem. -/
theorem IsStem.ne_nil {name s : List Char} (h : IsStem name s) (hname : name ≠ []) : s ≠ [] := by
  cases h with
  | cut _ _ hstem _ =>
      rintro rfl
      simp at hstem
  | whole => exact hname

/-- A stem is no longer than its name. -/
theorem IsStem.length_le {name s : List Char} (h : IsStem name s) : s.length ≤ name.length := by
  cases h with
  | cut => simp
  | whole => exact Nat.le_refl _

/-- A character more at the front, other than a dot, changes the stem. The
longer name is cut, or it would be longer than the stem; so is the name
itself, or its stem would start with that character. -/
theorem not_isStem_cons {c : Char} (hc : c ≠ '.') (name : List Char) :
    ¬ IsStem (c :: name) (stem name) := by
  intro h
  have hown := isStem_stem name
  have hle := hown.length_le
  generalize hlonger : c :: name = longer at h
  generalize hstem : stem name = s at h hown hle
  cases h with
  | whole dots rest _ _ =>
      rw [← hlonger, List.length_cons] at hle
      omega
  | cut _ extension hother hextension =>
      obtain ⟨d, rest, rfl⟩ : ∃ d rest, s = d :: rest := by
        obtain ⟨d, hd, _⟩ := hother
        exact List.exists_cons_of_ne_nil (List.ne_nil_of_mem hd)
      rw [List.cons_append, List.cons.injEq] at hlonger
      obtain ⟨rfl, rfl⟩ := hlonger
      by_cases hrest : ∃ x ∈ rest, x ≠ '.'
      · -- Without `c` the name is cut at the same dot.
        have hcut := (IsStem.cut rest extension hrest hextension).eq_stem
        rw [hstem] at hcut
        simpa using congrArg List.length hcut
      · -- Without `c` all dots are at the front, and the name is kept.
        have hdots : ∀ x ∈ rest ++ ['.'], x = '.' := by
          simpa [or_imp, forall_and] using hrest
        have hwhole := (IsStem.whole (rest ++ ['.']) extension hdots hextension).eq_stem
        rw [← List.append_cons, hstem] at hwhole
        have hfirst : (rest ++ '.' :: extension).head? = (rest ++ ['.']).head? := by
          cases rest <;> rfl
        rw [hwhole] at hfirst
        exact hc (hdots _ (List.mem_of_mem_head? hfirst.symm))

end FileName

end IdeProjects
