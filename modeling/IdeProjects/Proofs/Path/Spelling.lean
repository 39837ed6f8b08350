import IdeProjects.Proofs.Path.Entry
import IdeProjects.Proofs.Text.LetterCase
import Mathlib.Data.List.Basic

/-!
# `IdeProjects.Proofs.Path.Spelling`: one place under several spellings

A path is read in two steps: its text is cut at slashes into parts, and the
parts are walked. The first step takes a text apart where a slash stands
(`partsOf_append`), so what stands between two slashes adds its own parts
and changes no other ones. The second step forgets how it came to a place:
parts that lead back to where they start can be left out (`walk_up`).

Both steps treat letters as what they are, so the two commute with a change
of the case of all letters (`locate_map_toLower`).
-/

set_option autoImplicit false

namespace IdeProjects

namespace Path

/-! ### Names -/

/-- A text that can name an entry of a directory. -/
structure IsName (s : String) : Prop where
  nonempty : s ≠ ""
  notDot : s ≠ "."
  notDots : s ≠ ".."
  noSlash : '/' ∉ s.toList

namespace IsName

variable {s : String}

instance : Decidable (IsName s) :=
  decidable_of_iff (s ≠ "" ∧ s ≠ "." ∧ s ≠ ".." ∧ '/' ∉ s.toList)
    ⟨fun ⟨hempty, hdot, hdots, hslash⟩ => ⟨hempty, hdot, hdots, hslash⟩,
      fun ⟨hempty, hdot, hdots, hslash⟩ => ⟨hempty, hdot, hdots, hslash⟩⟩

/-- A name is a part of a path: it is neither empty nor a single dot, the two
that a path drops. -/
theorem isPart (h : IsName s) : isPart s.toList = true := by
  have hempty : s.toList ≠ "".toList := fun heq => h.nonempty (String.toList_injective heq)
  have hdot : s.toList ≠ ".".toList := fun heq => h.notDot (String.toList_injective heq)
  rw [Path.isPart, Bool.and_eq_true, bne_iff_ne, bne_iff_ne]
  exact ⟨hempty, hdot⟩

/-- A step along a name goes down to the entry of that name. -/
theorem step (h : IsName s) (place : Location) : step place s = place ++ [s] := by
  rw [Path.step_string, if_neg h.notDots, if_neg (by simp [h.nonempty, h.notDot])]

end IsName

/-- Three texts without slashes are no names. -/
theorem eq_of_not_isName {cs : List Char} (hslash : '/' ∉ cs)
    (h : ¬ IsName (String.ofList cs)) : cs = [] ∨ cs = ['.'] ∨ cs = ['.', '.'] := by
  have hne : ∀ ds : List Char, cs ≠ ds → String.ofList cs ≠ String.ofList ds :=
    fun ds hcs heq => hcs (String.ofList_injective heq)
  by_contra hnot
  simp only [not_or] at hnot
  exact h ⟨hne [] hnot.1, hne ['.'] hnot.2.1, hne ['.', '.'] hnot.2.2, by simpa using hslash⟩

/-- A text that a path has as one part: a name, or `..`. -/
def IsOnePart (s : String) : Prop := isPart s.toList = true ∧ '/' ∉ s.toList

/-- A name stands alone between slashes. So does `..`, which is no name. -/
theorem IsName.isOnePart {s : String} (h : IsName s) : IsOnePart s := ⟨h.isPart, h.noSlash⟩

/-! ### Cuts at slashes -/

/-- Cutting a text at its slashes is the cut of the library, so that its
lemmas can be used. -/
theorem splitSlashes_eq_splitOn (cs : List Char) : splitSlashes cs = cs.splitOn '/' := by
  induction cs with
  | nil => rfl
  | cons c rest ih =>
      rw [splitSlashes, List.splitOn_cons_eq_if_modifyHead, ih]
      by_cases hc : c = '/'
      · simp [hc]
      · cases hrest : rest.splitOn '/' with
        | nil => exact absurd hrest (List.splitOn_ne_nil _ _)
        | cons first more => simp [hc]

/-- There is always a piece, if only an empty one. -/
theorem splitSlashes_ne_nil (cs : List Char) : splitSlashes cs ≠ [] := by
  rw [splitSlashes_eq_splitOn]
  exact List.splitOn_ne_nil _ _

/-- The pieces of a text, joined by slashes again, are the text. -/
theorem intercalate_splitSlashes (cs : List Char) : ['/'].intercalate (splitSlashes cs) = cs := by
  rw [splitSlashes_eq_splitOn, List.intercalate_splitOn]

/-- A slash separates the pieces before it from those behind it. -/
theorem splitSlashes_append (cs ds : List Char) :
    splitSlashes (cs ++ '/' :: ds) = splitSlashes cs ++ splitSlashes ds := by
  simp only [splitSlashes_eq_splitOn, List.splitOn_append_cons_self]

/-- A text with a slash is cut in at least two. -/
theorem two_le_length_splitSlashes {cs : List Char} (h : '/' ∈ cs) :
    2 ≤ (splitSlashes cs).length := by
  obtain ⟨before, after, rfl⟩ := List.append_of_mem h
  have hbefore := List.length_pos_iff.mpr (splitSlashes_ne_nil before)
  have hafter := List.length_pos_iff.mpr (splitSlashes_ne_nil after)
  rw [splitSlashes_append, List.length_append]
  omega

/-- A slash ends one part and begins another. -/
theorem partsOf_append (cs ds : List Char) :
    partsOf (cs ++ '/' :: ds) = partsOf cs ++ partsOf ds := by
  rw [partsOf, splitSlashes_append, List.filter_append, List.map_append]
  rfl

/-- A text that is one part is the only part of its path. -/
theorem partsOf_of_isOnePart {s : String} (h : IsOnePart s) : partsOf s.toList = [s] := by
  have hone : splitSlashes s.toList = [s.toList] := by
    rw [splitSlashes_eq_splitOn, List.splitOn_eq_singleton h.2]
  rw [partsOf, hone, List.filter_cons_of_pos (by simpa using h.1)]
  simp

/-! ### Roots -/

/-- A path that does not start with a slash starts from the working directory.
-/
theorem ofChars_of_head {cs : List Char} (h : cs.head? ≠ some '/') :
    Root.ofChars cs = .relative := by
  fun_cases Root.ofChars cs with
  | case4 => rfl
  | _ => simp at h

/-- A path with one slash at its start is named from the root. -/
theorem ofChars_slash {cs : List Char} (h : cs.head? ≠ some '/') :
    Root.ofChars ('/' :: cs) = .slash := by
  cases cs with
  | nil => rfl
  | cons c rest =>
      have hc : c ≠ '/' := by simpa using h
      simp [Root.ofChars, hc]

/-- Just two slashes at the start are a root of their own; three and more are
the common one. -/
theorem ofChars_doubleSlash {cs : List Char} (h : cs.head? ≠ some '/') :
    Root.ofChars ('/' :: '/' :: cs) = .doubleSlash := by
  cases cs with
  | nil => rfl
  | cons c rest =>
      have hc : c ≠ '/' := by simpa using h
      simp [Root.ofChars, hc]

/-- A text has one of the three roots, or three slashes at its start. -/
theorem ofChars_cases (cs : List Char) :
    cs.head? ≠ some '/' ∨
      (∃ rest, cs = '/' :: rest ∧ rest.head? ≠ some '/') ∨
      (∃ rest, cs = '/' :: '/' :: rest ∧ rest.head? ≠ some '/') ∨
      ∃ rest, cs = '/' :: '/' :: '/' :: rest := by
  fun_cases Root.ofChars cs with
  | case1 rest => exact Or.inr (Or.inr (Or.inr ⟨rest, rfl⟩))
  | case2 rest hrest =>
      refine Or.inr (Or.inr (Or.inl ⟨rest, rfl, fun h => ?_⟩))
      exact hrest rest.tail (List.eq_cons_of_mem_head? h)
  | case3 rest _ hrest =>
      refine Or.inr (Or.inl ⟨rest, rfl, fun h => ?_⟩)
      exact hrest rest.tail (List.eq_cons_of_mem_head? h)
  | case4 _ _ _ hfirst =>
      refine Or.inl fun h => ?_
      exact hfirst cs.tail (List.eq_cons_of_mem_head? h)

/-- Only a path with two slashes at its start has that other root. -/
theorem exists_of_doubleSlash {p : String} (h : (ofText p).root = .doubleSlash) :
    ∃ rest, p.toList = '/' :: '/' :: rest := by
  have hroot : Root.ofChars p.toList = .doubleSlash := h
  rcases ofChars_cases p.toList with hp | ⟨rest, hp, hrest⟩ | ⟨rest, hp, _⟩ | ⟨rest, hp⟩
  · rw [ofChars_of_head hp] at hroot
    cases hroot
  · rw [hp, ofChars_slash hrest] at hroot
    cases hroot
  · exact ⟨rest, hp⟩
  · exact ⟨'/' :: rest, hp⟩

/-- The root is decided before the first character that is no slash. -/
theorem ofChars_append {cs : List Char} (h : ∃ c ∈ cs, c ≠ '/') (ds : List Char) :
    Root.ofChars (cs ++ ds) = Root.ofChars cs := by
  obtain ⟨c, hc, hne⟩ := h
  have hhead : ∀ rest : List Char, c ∈ rest → (rest ++ ds).head? = rest.head? := fun rest hmem => by
    rw [List.head?_append_of_ne_nil rest (List.ne_nil_of_mem hmem)]
  rcases ofChars_cases cs with hcs | ⟨rest, rfl, hrest⟩ | ⟨rest, rfl, hrest⟩ | ⟨rest, rfl⟩
  · rw [ofChars_of_head hcs, ofChars_of_head (by rwa [hhead cs hc])]
  · have hmem : c ∈ rest := by simpa [hne] using hc
    rw [ofChars_slash hrest, List.cons_append, ofChars_slash (by rwa [hhead rest hmem])]
  · have hmem : c ∈ rest := by simpa [hne] using hc
    rw [ofChars_doubleSlash hrest, List.cons_append, List.cons_append,
      ofChars_doubleSlash (by rwa [hhead rest hmem])]
  · rfl

/-- The root of a path does not depend on letter case: a slash has none. -/
theorem ofChars_map_toLower (cs : List Char) :
    Root.ofChars (cs.map Char.toLower) = Root.ofChars cs := by
  have hhead : ∀ rest : List Char, rest.head? ≠ some '/' →
      (rest.map Char.toLower).head? ≠ some '/' := by
    intro rest hrest
    cases rest with
    | nil => simp
    | cons c more =>
        have hslash : c.toLower = '/' ↔ c = '/' := Text.toLower_eq_iff (by decide)
        simpa [hslash] using hrest
  rcases ofChars_cases cs with hcs | ⟨rest, rfl, hrest⟩ | ⟨rest, rfl, hrest⟩ | ⟨rest, rfl⟩
  · rw [ofChars_of_head hcs, ofChars_of_head (hhead cs hcs)]
  · rw [ofChars_slash hrest]
    exact ofChars_slash (hhead rest hrest)
  · rw [ofChars_doubleSlash hrest]
    exact ofChars_doubleSlash (hhead rest hrest)
  · rfl

/-! ### A text between two slashes -/

/-- A path below another: the root is that of the upper one, and the parts
follow one another. The upper one needs a character besides slashes, or the
slash between them would count for the root. -/
theorem ofText_under {a : String} (h : ∃ c ∈ a.toList, c ≠ '/') (b : String) :
    ofText (a ++ "/" ++ b) =
      ⟨Root.ofChars a.toList, partsOf a.toList ++ partsOf b.toList⟩ := by
  have hchars : (a ++ "/" ++ b).toList = a.toList ++ '/' :: b.toList := by simp
  rw [ofText, hchars, ofChars_append h, partsOf_append]

/-- What stands between two slashes adds its parts. -/
theorem ofText_between {a : String} (h : ∃ c ∈ a.toList, c ≠ '/') (m b : String) :
    ofText (a ++ "/" ++ (m ++ "/" ++ b)) =
      ⟨Root.ofChars a.toList, partsOf a.toList ++ (partsOf m.toList ++ partsOf b.toList)⟩ := by
  have hchars : (m ++ "/" ++ b).toList = m.toList ++ '/' :: b.toList := by simp
  rw [ofText_under h, hchars, partsOf_append]

/-- A walk along parts and more parts goes on from where the first part of it
has led. -/
theorem walk_append (start : Location) (parts more : List String) :
    walk start (parts ++ more) = walk (walk start parts) more :=
  List.foldl_append

/-- Down to an entry and up again is no way at all. -/
theorem walk_up {c : String} (h : IsName c) (start : Location) (parts : List String) :
    walk start (c :: ".." :: parts) = walk start parts := by
  have hback : step (step start c) ".." = start := by
    rw [h.step, step_string, if_pos rfl, List.dropLast_concat]
  rw [walk, List.foldl_cons, List.foldl_cons, hback, walk]

/-! ### The working directory -/

/-- A slash at the start of a text adds no part. -/
theorem partsOf_slash (cs : List Char) : partsOf ('/' :: cs) = partsOf cs := by
  have hnone : partsOf [] = [] := by decide
  have hcut := partsOf_append [] cs
  rwa [hnone] at hcut

/-- The text of an entry of a place, with what may be a longer way in the
place of the entry's name. -/
theorem toList_text_child (base : Location) (s : String) :
    ((ofLocation base).child s).text.toList =
      '/' :: ['/'].intercalate ((base ++ [s]).map String.toList) := by
  simp [text, child, ofLocation, Root.text]

/-- The parts of a path that is written out below a working directory are
those of the directory and then its own. -/
theorem partsOf_intercalate {base : List String} (hbase : ∀ n ∈ base, IsOnePart n) (s : String) :
    partsOf (['/'].intercalate ((base ++ [s]).map String.toList)) = base ++ partsOf s.toList := by
  induction base with
  | nil => simp
  | cons n rest ih =>
      rw [List.forall_mem_cons] at hbase
      have hcut : ['/'].intercalate ((n :: rest ++ [s]).map String.toList) =
          n.toList ++ '/' :: ['/'].intercalate ((rest ++ [s]).map String.toList) := by
        cases rest <;> simp
      rw [hcut, partsOf_append, partsOf_of_isOnePart hbase.1, ih hbase.2]
      rfl

/-- A relative path, written behind the working directory, begins with the
names of the directory. -/
theorem ofText_text_child {base : Location} (hbase : ∀ n ∈ base, IsName n) {s : String}
    (hs : s.toList.head? ≠ some '/') :
    ofText ((ofLocation base).child s).text = ⟨.slash, base ++ partsOf s.toList⟩ := by
  have hhead : (['/'].intercalate ((base ++ [s]).map String.toList)).head? ≠ some '/' := by
    cases base with
    | nil => simpa using hs
    | cons n rest =>
        obtain ⟨hnonempty, _, _, hslash⟩ := hbase n (by simp)
        cases hchars : n.toList with
        | nil => exact absurd (String.toList_injective hchars) hnonempty
        | cons c more =>
            have hc : c ≠ '/' := fun heq => hslash (by simp [hchars, heq])
            cases rest <;> simp [hchars, hc]
  rw [ofText, toList_text_child, ofChars_slash hhead, partsOf_slash,
    partsOf_intercalate fun n hn => (hbase n hn).isOnePart]

/-- From the working directory a relative path and the same path behind the
working directory lead to one place. -/
theorem locate_text_child {base : Location} (hbase : ∀ n ∈ base, IsName n) {s : String}
    (hs : s.toList.head? ≠ some '/') :
    (ofText ((ofLocation base).child s).text).locate base = (ofText s).locate base := by
  have hdown : walk [] base = base :=
    walk_of_names (fun n hn => ⟨(hbase n hn).notDots, (hbase n hn).nonempty,
      (hbase n hn).notDot⟩) []
  have hroot : (ofText s).root = .relative := ofChars_of_head hs
  have hrelative : (ofText s).isAbsolute = false := by rw [isAbsolute, hroot]; rfl
  have habsolute : isAbsolute ⟨.slash, base ++ partsOf s.toList⟩ = true := rfl
  rw [ofText_text_child hbase hs, locate, locate, habsolute, hrelative, if_pos rfl,
    if_neg Bool.false_ne_true, walk_append, hdown, ofText]

/-! ### The case of letters -/

/-- Whether a piece is a part does not depend on letter case: a dot has none.
-/
theorem isPart_map_toLower (part : List Char) : isPart (part.map Char.toLower) = isPart part := by
  have hdot : part.map Char.toLower = ['.'] ↔ part = ['.'] := Text.map_toLower_eq_iff (by decide)
  have hempty : part.map Char.toLower = [] ↔ part = [] := List.map_eq_nil_iff
  rw [Bool.eq_iff_iff]
  simp only [isPart, Bool.and_eq_true, bne_iff_ne, ne_eq, hdot, hempty]

/-- A text in small letters is cut where the text itself is. -/
theorem splitSlashes_map_toLower (cs : List Char) :
    splitSlashes (cs.map Char.toLower) = (splitSlashes cs).map (List.map Char.toLower) := by
  induction cs with
  | nil => rfl
  | cons c rest ih =>
      have hslash : c.toLower = '/' ↔ c = '/' := Text.toLower_eq_iff (by decide)
      rw [List.map_cons, splitSlashes, splitSlashes, ih]
      by_cases hc : c = '/'
      · rw [if_pos (hslash.mpr hc), if_pos hc, List.map_cons, List.map_nil]
      · rw [if_neg (hslash.not.mpr hc), if_neg hc]
        cases splitSlashes rest <;> simp

/-- The parts of a path in small letters are its parts in small letters. -/
theorem partsOf_map_toLower (cs : List Char) :
    partsOf (cs.map Char.toLower) = (partsOf cs).map String.toLower := by
  have hpart : isPart ∘ List.map Char.toLower = isPart := funext isPart_map_toLower
  have htext : ∀ part : List Char,
      String.ofList (part.map Char.toLower) = (String.ofList part).toLower := by
    intro part
    apply String.toList_injective
    rw [Text.toList_toLower, String.toList_ofList, String.toList_ofList]
  rw [partsOf, splitSlashes_map_toLower, List.filter_map, hpart, partsOf, List.map_map,
    List.map_map]
  exact List.map_congr_left fun part _ => htext part

/-- A step in small letters leads to the place in small letters. The three
kinds of steps are told apart by texts without letters. -/
theorem step_toLower (place : Location) (part : String) :
    step (place.map String.toLower) part.toLower = (step place part).map String.toLower := by
  have hdots : part.toLower = ".." ↔ part = ".." := Text.string_toLower_eq_iff (by decide)
  have hempty : part.toLower = "" ↔ part = "" := Text.string_toLower_eq_iff (by decide)
  have hdot : part.toLower = "." ↔ part = "." := Text.string_toLower_eq_iff (by decide)
  simp only [step_string, hdots, Bool.or_eq_true, decide_eq_true_eq, hempty, hdot]
  split
  · rw [List.map_dropLast]
  · split
    · rfl
    · rw [List.map_append, List.map_singleton]

/-- A walk in small letters leads to the place in small letters, by induction
on the parts. -/
theorem walk_map_toLower (start : Location) (parts : List String) :
    walk (start.map String.toLower) (parts.map String.toLower) =
      (walk start parts).map String.toLower := by
  induction parts generalizing start with
  | nil => rfl
  | cons part rest ih =>
      have hrest := ih (step start part)
      rw [walk, walk] at hrest ⊢
      rw [List.map_cons, List.foldl_cons, List.foldl_cons, step_toLower, hrest]

/-- Texts that differ in the case of letters have one root, and they lead to
places whose names differ in the case of letters. -/
theorem locate_map_toLower {s t : String} (h : s.toLower = t.toLower) (base : Location) :
    (ofText s).root = (ofText t).root ∧
      ((ofText s).locate base).map String.toLower =
        ((ofText t).locate base).map String.toLower := by
  have hchars : s.toList.map Char.toLower = t.toList.map Char.toLower := by
    rw [← Text.toList_toLower, ← Text.toList_toLower, h]
  have hroot : (ofText s).root = (ofText t).root := by
    rw [ofText, ofText, ← ofChars_map_toLower, hchars, ofChars_map_toLower]
  have hparts : (ofText s).parts.map String.toLower = (ofText t).parts.map String.toLower := by
    rw [ofText, ofText, ← partsOf_map_toLower, hchars, partsOf_map_toLower]
  have habsolute : (ofText s).isAbsolute = (ofText t).isAbsolute := by
    rw [isAbsolute, isAbsolute, hroot]
  refine ⟨hroot, ?_⟩
  rw [locate, locate, habsolute, ← walk_map_toLower, ← walk_map_toLower, hparts]

end Path

end IdeProjects
