import IdeProjects.Descriptor.Markup
import IdeProjects.Proofs.Library.Spelling
import IdeProjects.Proofs.Text.Cut
import Mathlib.Data.List.Basic

/-!
# `IdeProjects.Proofs.Library.Separators`: either slash between the names of a path

A key reads a backslash as a slash, but only after the path has been read,
and reading cuts at slashes alone. So it depends on the path whether the
separators matter. Between two names they do not. Where a stretch between
separators is empty, `.` or `..`, it has a meaning between slashes and is
part of a name beside a backslash. `SlashesAlike` is the condition, and it
is exact: the spellings that differ from a path in the separators have its
key if and only if it holds (`key_eq_iff_slashesAlike`).

For a path of names both readings come to the same text behind the working
directory (`toList_normalized_of_names`). For any other path the spelling
with slashes alone has a shorter key than the one with backslashes alone: a
stretch without a meaning is left out of the first, and its separator with
it, while the second keeps all of them. Folding may change the length of a
text, so lengths are measured after it (`weight`).
-/

set_option autoImplicit false

namespace IdeProjects

open LibraryReference (slashChar)

variable {base : Location}

/-! ### Stretches between separators -/

/-- The stretches of a path between slashes of either kind. -/
def stretches (p : String) : List (List Char) := Path.splitSlashes (p.toList.map slashChar)

/-- It does not matter which slashes the path is written with: it has none,
or all that stands between them are names. -/
def SlashesAlike (p : String) : Prop :=
  p.toList.any FileName.isSlash = false ∨
    ∀ s ∈ stretches p, Path.IsName (String.ofList s)

instance (p : String) : Decidable (SlashesAlike p) := inferInstanceAs (Decidable (_ ∨ _))

/-- Only a backslash is changed. -/
theorem slashChar_eq_self {c : Char} (h : c ≠ '\\') : slashChar c = c := if_neg h

/-- A text without a backslash stays as it is. -/
theorem map_slashChar_eq_self {cs : List Char} (h : '\\' ∉ cs) : cs.map slashChar = cs := by
  rw [List.map_congr_left fun c hc => slashChar_eq_self (ne_of_mem_of_not_mem hc h)]
  exact List.map_id _

/-- A path and what it is written as in a project file differ in the
separators alone. -/
theorem map_slashChar_backslashed (p : String) :
    (Markup.backslashed p).toList.map slashChar = p.toList.map slashChar := by
  rw [Markup.backslashed, String.toList_ofList, List.map_map]
  refine List.map_congr_left fun c _ => ?_
  by_cases hc : c = '/'
  · subst hc
    rfl
  · rw [Function.comp_apply, if_neg hc]

/-- Two paths are written as one hint exactly if they differ in the direction
of their separators only. -/
theorem backslashed_eq_iff {p q : String} :
    Markup.backslashed q = Markup.backslashed p ↔
      q.toList.map slashChar = p.toList.map slashChar := by
  constructor
  · intro h
    rw [← map_slashChar_backslashed, h, map_slashChar_backslashed]
  · -- A backslash is written for what a slash is written for.
    intro h
    have hback : ∀ s : String, Markup.backslashed s =
        String.ofList ((s.toList.map slashChar).map fun c => if c = '/' then '\\' else c) := by
      intro s
      rw [Markup.backslashed, List.map_map]
      congr 1
      refine List.map_congr_left fun c _ => ?_
      by_cases hc : c = '\\'
      · subst hc
        rfl
      · rw [Function.comp_apply, slashChar_eq_self hc]
    rw [hback, h, ← hback]

/-- Turning the separators twice is turning them once. -/
theorem map_slashChar_idem (cs : List Char) :
    (cs.map slashChar).map slashChar = cs.map slashChar := by
  refine map_slashChar_eq_self fun hmem => ?_
  obtain ⟨c, _, hc⟩ := List.mem_map.mp hmem
  by_cases hback : c = '\\'
  · rw [slashChar, if_pos hback] at hc
    exact absurd hc (by decide)
  · exact hback (by rwa [slashChar_eq_self hback] at hc)

/-- Slashes and backslashes alone are spellings of the path. -/
theorem backslashed_slashed (p : String) :
    Markup.backslashed (String.ofList (p.toList.map slashChar)) = Markup.backslashed p :=
  backslashed_eq_iff.mpr (by rw [String.toList_ofList, map_slashChar_idem])

/-- A hint written as a hint again is the same hint. -/
theorem backslashed_backslashed (p : String) :
    Markup.backslashed (Markup.backslashed p) = Markup.backslashed p :=
  backslashed_eq_iff.mpr (map_slashChar_backslashed p)

/-- Backslashes cut the stretches between slashes further, each by itself, by
induction on the stretches. -/
theorem splitSlashes_map_slashChar (cs : List Char) :
    Path.splitSlashes (cs.map slashChar) =
      (Path.splitSlashes cs).flatMap fun s => Path.splitSlashes (s.map slashChar) := by
  have hjoined : ∀ ss : List (List Char), ss ≠ [] →
      Path.splitSlashes ((['/'].intercalate ss).map slashChar) =
        ss.flatMap fun s => Path.splitSlashes (s.map slashChar) := by
    intro ss hss
    induction ss with
    | nil => exact absurd rfl hss
    | cons s rest ih =>
        cases rest with
        | nil => simp
        | cons next others =>
            rw [List.intercalate_cons_cons, List.append_assoc, List.map_append, List.singleton_append,
              List.map_cons, slashChar_eq_self (by decide), Path.splitSlashes_append,
              ih (List.cons_ne_nil _ _)]
            rfl
  have hcs := hjoined (Path.splitSlashes cs) (Path.splitSlashes_ne_nil cs)
  rwa [Path.intercalate_splitSlashes] at hcs

/-- Where all stretches between separators of either kind are names, so are
those between slashes. -/
theorem isName_of_stretches {p : String} (h : ∀ s ∈ stretches p, Path.IsName (String.ofList s))
    {s : List Char} (hs : s ∈ Path.splitSlashes p.toList) : Path.IsName (String.ofList s) := by
  have hslash : '/' ∉ s := by
    rw [Path.splitSlashes_eq_splitOn] at hs
    exact Text.not_mem_of_mem_splitOn hs
  -- Without a backslash the stretch is one of those between separators.
  have hwhole : '\\' ∉ s → Path.IsName (String.ofList s) := by
    intro hback
    refine h s ?_
    rw [stretches, splitSlashes_map_slashChar, List.mem_flatMap]
    refine ⟨s, hs, ?_⟩
    rw [map_slashChar_eq_self hback, Path.splitSlashes_eq_splitOn, List.splitOn_eq_singleton hslash]
    exact List.mem_singleton_self s
  have hnot : ∀ t : String, '\\' ∉ t.toList → ¬ Path.IsName t → String.ofList s ≠ t := by
    rintro _ hback hname rfl
    exact hname (hwhole (by simpa using hback))
  exact ⟨hnot "" (by decide) fun hn => hn.nonempty rfl, hnot "." (by decide) fun hn => hn.notDot rfl,
    hnot ".." (by decide) fun hn => hn.notDots rfl, by simpa using hslash⟩

/-! ### Paths of names -/

/-- A path whose stretches are all names keeps every one of them as a part. -/
theorem partsOf_of_names {cs : List Char}
    (h : ∀ s ∈ Path.splitSlashes cs, Path.IsName (String.ofList s)) :
    (Path.partsOf cs).map String.toList = Path.splitSlashes cs := by
  rw [Path.partsOf, List.filter_eq_self.mpr fun s hs => by simpa using (h s hs).isPart, List.map_map]
  exact (List.map_congr_left fun s _ => String.toList_ofList).trans (List.map_id _)

/-- Such a path does not start with a slash, for the stretch before the slash
would be empty. -/
theorem head?_of_names {cs : List Char}
    (h : ∀ s ∈ Path.splitSlashes cs, Path.IsName (String.ofList s)) : cs.head? ≠ some '/' := by
  intro hhead
  obtain ⟨rest, rfl⟩ : ∃ rest, cs = '/' :: rest := ⟨cs.tail, List.eq_cons_of_mem_head? hhead⟩
  exact (h [] (by simp [Path.splitSlashes])).nonempty rfl

/-- A path of names is written behind the working directory as it is: nothing
in it is dropped and nothing goes back. -/
theorem toList_normalized_of_names {p : String}
    (h : ∀ s ∈ Path.splitSlashes p.toList, Path.IsName (String.ofList s)) :
    (⟨p⟩ : LibraryReference base).normalized.toList =
      '/' :: ((base.map String.toList).flatMap (· ++ ['/']) ++ p.toList) := by
  have hroot : (Path.ofText p).root = .relative := Path.ofChars_of_head (head?_of_names h)
  have hkeyRoot : (⟨p⟩ : LibraryReference base).keyRoot = .slash := by
    rw [LibraryReference.keyRoot, hroot]
    rfl
  have hplace : (⟨p⟩ : LibraryReference base).place = base ++ Path.partsOf p.toList := by
    have hrelative : (Path.ofText p).isAbsolute = false := by rw [Path.isAbsolute, hroot]; rfl
    rw [LibraryReference.place, Path.locate, hrelative, if_neg Bool.false_ne_true]
    refine Path.walk_of_names (fun part hpart => ?_) base
    obtain ⟨s, hs, rfl⟩ := List.mem_map.mp hpart
    obtain ⟨hnonempty, hdot, hdots, _⟩ := h s (List.mem_filter.mp hs).1
    exact ⟨hdots, hnonempty, hdot⟩
  rw [LibraryReference.toList_normalized, hkeyRoot, hplace, List.map_append, partsOf_of_names h,
    intercalate_append _ _ (Path.splitSlashes_ne_nil _), Path.intercalate_splitSlashes]
  rfl

/-- Where the slashes do not matter, all spellings with other slashes have
the key of the path. -/
theorem key_eq_of_slashesAlike {p q : String} (h : SlashesAlike p)
    (hq : Markup.backslashed q = Markup.backslashed p) :
    (⟨q⟩ : LibraryReference base).key = (⟨p⟩ : LibraryReference base).key := by
  have hchars : q.toList.map slashChar = p.toList.map slashChar := backslashed_eq_iff.mp hq
  rcases h with hfree | hnames
  · -- There is only one spelling.
    have hnone := List.any_eq_false.mp hfree
    have hplain : p.toList.map slashChar = p.toList :=
      map_slashChar_eq_self fun hmem => hnone _ hmem rfl
    have hplain' : q.toList.map slashChar = q.toList := by
      refine map_slashChar_eq_self fun hmem => hnone (slashChar '\\') ?_ rfl
      rw [← hplain, ← hchars]
      exact List.mem_map_of_mem hmem
    have hsame : q = p := by
      apply String.toList_injective
      rw [← hplain', hchars, hplain]
    rw [hsame]
  · -- Both are written behind the working directory.
    have hstretches : stretches q = stretches p := by rw [stretches, hchars, stretches]
    have hwritten : (⟨p⟩ : LibraryReference base).normalized.toList = _ :=
      toList_normalized_of_names fun s hs => isName_of_stretches hnames hs
    have hwritten' : (⟨q⟩ : LibraryReference base).normalized.toList = _ :=
      toList_normalized_of_names fun s hs => isName_of_stretches (hstretches ▸ hnames) hs
    rw [LibraryReference.key, LibraryReference.key, hwritten, hwritten']
    simp only [List.map_cons, List.map_append, hchars]

/-! ### The length of a key -/

/-- The length of a text in a key. -/
def weight (cs : List Char) : Nat := (Text.foldChars (cs.map slashChar)).length

/-- The length of texts in a key, a separator with each. -/
def spread : List (List Char) → Nat
  | [] => 0
  | s :: rest => weight s + 1 + spread rest

/-- The length of the key of a library is what its normalized path weighs. -/
theorem length_key (r : LibraryReference base) :
    r.key.toList.length = weight r.normalized.toList := by
  rw [LibraryReference.key, String.toList_ofList, weight]

/-- A text weighs what its two halves weigh. -/
theorem weight_append (cs ds : List Char) : weight (cs ++ ds) = weight cs + weight ds := by
  rw [weight, List.map_append, Text.foldChars_append, List.length_append, weight, weight]

/-- A separator weighs one. -/
theorem weight_slash (cs : List Char) : weight ('/' :: cs) = weight cs + 1 := by
  have hone : weight ['/'] = 1 := rfl
  rw [← List.singleton_append, weight_append, hone, Nat.add_comm]

/-- No texts have no length. -/
@[simp] theorem spread_nil : spread [] = 0 := rfl

/-- Each text adds its weight and a separator. -/
@[simp] theorem spread_cons (s : List Char) (ss : List (List Char)) :
    spread (s :: ss) = weight s + 1 + spread ss := rfl

/-- Texts have the length of their two halves. -/
@[simp] theorem spread_append (ss ts : List (List Char)) :
    spread (ss ++ ts) = spread ss + spread ts := by
  induction ss with
  | nil => rw [List.nil_append, spread_nil, Nat.zero_add]
  | cons s rest ih =>
      rw [List.cons_append, spread_cons, ih, spread_cons]
      omega

/-- Leaving texts out makes the rest no longer. -/
theorem spread_le_of_sublist {ss ts : List (List Char)} (h : ss.Sublist ts) :
    spread ss ≤ spread ts := by
  induction h with
  | slnil => exact Nat.le_refl _
  | cons s _ ih =>
      rw [spread_cons]
      omega
  | cons_cons s _ ih =>
      rw [spread_cons, spread_cons]
      omega

/-- Each text counts for one at least, because of its separator. -/
theorem length_le_spread (ss : List (List Char)) : ss.length ≤ spread ss := by
  induction ss with
  | nil => simp
  | cons s rest ih =>
      rw [spread_cons, List.length_cons]
      omega

/-- Texts with a separator behind each weigh their spread. -/
theorem weight_flatMap (ss : List (List Char)) : weight (ss.flatMap (· ++ ['/'])) = spread ss := by
  induction ss with
  | nil => rfl
  | cons s rest ih =>
      have hone : weight ['/'] = 1 := rfl
      rw [List.flatMap_cons, weight_append, weight_append, ih, hone, spread_cons]

/-- Joined texts have one separator less than texts. -/
theorem weight_intercalate (ss : List (List Char)) :
    weight (['/'].intercalate ss) = spread ss - 1 := by
  rcases List.eq_nil_or_concat' ss with rfl | ⟨rest, last, rfl⟩
  · rfl
  · rw [intercalate_append _ _ (List.cons_ne_nil _ _), weight_append, weight_flatMap, spread_append,
      List.intercalate_singleton, spread_cons, spread_nil]
    omega

/-! ### Paths with other stretches -/

/-- The stretches that are names. -/
def nameStretches (ss : List (List Char)) : List (List Char) :=
  ss.filter fun s => Path.IsName (String.ofList s)

/-- A name is kept. -/
theorem nameStretches_cons_of_name {s : List Char} (h : Path.IsName (String.ofList s))
    (ss : List (List Char)) : nameStretches (s :: ss) = s :: nameStretches ss :=
  List.filter_cons_of_pos (by simpa using h)

/-- A stretch that is no name is dropped. -/
theorem nameStretches_cons_of_not {s : List Char} (h : ¬ Path.IsName (String.ofList s))
    (ss : List (List Char)) : nameStretches (s :: ss) = nameStretches ss :=
  List.filter_cons_of_neg (by simpa using h)

/-- The stretches that are names are no longer than all of them. -/
theorem spread_nameStretches_le (ss : List (List Char)) : spread (nameStretches ss) ≤ spread ss :=
  spread_le_of_sublist List.filter_sublist

/-- A stretch that is no name takes a separator at least. -/
theorem spread_nameStretches_lt {ss : List (List Char)} {s : List Char} (hs : s ∈ ss)
    (hname : ¬ Path.IsName (String.ofList s)) : spread (nameStretches ss) < spread ss := by
  obtain ⟨before, after, rfl⟩ := List.append_of_mem hs
  have hsplit : nameStretches (before ++ s :: after) =
      nameStretches before ++ nameStretches (s :: after) := List.filter_append _ _
  have hbefore := spread_nameStretches_le before
  have hafter := spread_nameStretches_le after
  rw [hsplit, nameStretches_cons_of_not hname]
  simp only [spread_append, spread_cons]
  omega

/-- Walking keeps at most what it starts from and the names. A stretch that is
no name is dropped, or takes the last name back. -/
theorem spread_walk_le {ss : List (List Char)} (hss : ∀ s ∈ ss, '/' ∉ s) (start : Location) :
    spread ((Path.walk start ((ss.filter Path.isPart).map String.ofList)).map String.toList) ≤
      spread (start.map String.toList) + spread (nameStretches ss) := by
  -- On the stretches, for every place the walk may have come to. A name
  -- adds its weight, and nothing else adds any.
  induction ss generalizing start with
  | nil => simp [Path.walk]
  | cons s rest ih =>
      rw [List.forall_mem_cons] at hss
      by_cases hname : Path.IsName (String.ofList s)
      · have hpart : Path.isPart s = true := by simpa using hname.isPart
        have hrest := ih hss.2 (start ++ [String.ofList s])
        rw [List.map_append, spread_append] at hrest
        simp only [List.map_cons, List.map_nil, String.toList_ofList, spread_cons,
          spread_nil] at hrest
        rw [List.filter_cons_of_pos hpart, nameStretches_cons_of_name hname, List.map_cons,
          Path.walk, List.foldl_cons, hname.step, spread_cons]
        exact Nat.le_trans hrest (by omega)
      · rw [nameStretches_cons_of_not hname]
        rcases Path.eq_of_not_isName hss.1 hname with rfl | rfl | rfl
        · exact ih hss.2 start
        · exact ih hss.2 start
        · -- The last name is taken back.
          have hstep : Path.step start (String.ofList ['.', '.']) = start.dropLast := rfl
          have hfewer := spread_le_of_sublist ((List.dropLast_sublist start).map String.toList)
          have hrest := ih hss.2 start.dropLast
          rw [List.filter_cons_of_pos (by decide), List.map_cons, Path.walk, List.foldl_cons, hstep]
          exact Nat.le_trans hrest (by omega)

/-- Where a stretch between slashes is no name, the key is shorter than that
of the same text behind the working directory would be. -/
theorem weight_normalized_lt {p : String} (hslash : '/' ∈ p.toList)
    {s : List Char} (hs : s ∈ Path.splitSlashes p.toList)
    (hname : ¬ Path.IsName (String.ofList s)) :
    weight (⟨p⟩ : LibraryReference base).normalized.toList <
      spread (base.map String.toList) + spread (Path.splitSlashes p.toList) := by
  have hss : ∀ t ∈ Path.splitSlashes p.toList, '/' ∉ t := fun t ht => by
    rw [Path.splitSlashes_eq_splitOn] at ht
    exact Text.not_mem_of_mem_splitOn ht
  -- The place holds at most the names, behind the working directory.
  have hplace : spread ((⟨p⟩ : LibraryReference base).place.map String.toList) ≤
      spread (base.map String.toList) + spread (nameStretches (Path.splitSlashes p.toList)) := by
    have hwalk := spread_walk_le hss (if (Path.ofText p).isAbsolute then [] else base)
    have hstart : spread ((if (Path.ofText p).isAbsolute then [] else base).map String.toList) ≤
        spread (base.map String.toList) := by
      split
      · exact Nat.zero_le _
      · exact Nat.le_refl _
    exact Nat.le_trans hwalk (by omega)
  rw [LibraryReference.toList_normalized, weight_append, weight_intercalate]
  by_cases hroot : (Path.ofText p).root = .doubleSlash
  · -- Two slashes at the start stay, but two empty stretches go.
    obtain ⟨rest, hp⟩ := Path.exists_of_doubleSlash hroot
    have hcut : Path.splitSlashes p.toList = [] :: [] :: Path.splitSlashes rest := by
      rw [hp]
      rfl
    have hempty : ¬ Path.IsName (String.ofList []) := fun h => h.nonempty rfl
    have hrest := spread_nameStretches_le (Path.splitSlashes rest)
    have hpositive := Nat.le_trans (List.length_pos_iff.mpr (Path.splitSlashes_ne_nil rest))
      (length_le_spread (Path.splitSlashes rest))
    have htext : weight (⟨p⟩ : LibraryReference base).keyRoot.text.toList = 2 := by
      rw [LibraryReference.keyRoot, if_pos hroot]
      rfl
    rw [hcut, nameStretches_cons_of_not hempty, nameStretches_cons_of_not hempty] at hplace
    rw [htext, hcut, spread_cons, spread_cons]
    omega
  · have hfewer := spread_nameStretches_lt hs hname
    have htwo := Nat.le_trans (Path.two_le_length_splitSlashes hslash)
      (length_le_spread (Path.splitSlashes p.toList))
    have htext : weight (⟨p⟩ : LibraryReference base).keyRoot.text.toList = 1 := by
      rw [LibraryReference.keyRoot, if_neg hroot]
      rfl
    rw [htext]
    omega

/-- In a project file a path has backslashes in the place of all slashes. -/
theorem slash_not_mem_backslashed (p : String) : '/' ∉ (Markup.backslashed p).toList := by
  rw [Markup.backslashed, String.toList_ofList]
  intro hmem
  obtain ⟨c, _, hc⟩ := List.mem_map.mp hmem
  split at hc
  · exact absurd hc (by decide)
  · rename_i hslash
    exact hslash hc

/-- A path with a separator has a backslash in its hint. -/
theorem backslash_mem_backslashed {p : String} {c : Char} (hc : c ∈ p.toList)
    (hslash : FileName.isSlash c = true) : '\\' ∈ (Markup.backslashed p).toList := by
  rw [Markup.backslashed, String.toList_ofList]
  refine List.mem_map.mpr ⟨c, hc, ?_⟩
  simp only [FileName.isSlash, Bool.or_eq_true, beq_iff_eq] at hslash
  rcases hslash with rfl | rfl <;> rfl

/-- Written with backslashes alone, a path with separators is one name. -/
theorem toList_normalized_backslashed {p : String} {c : Char} (hc : c ∈ p.toList)
    (hslash : FileName.isSlash c = true) :
    (⟨Markup.backslashed p⟩ : LibraryReference base).normalized.toList =
      '/' :: ((base.map String.toList).flatMap (· ++ ['/']) ++ (Markup.backslashed p).toList) := by
  have hback := backslash_mem_backslashed hc hslash
  have hnone := slash_not_mem_backslashed p
  refine toList_normalized_of_names fun s hs => ?_
  rw [Path.splitSlashes_eq_splitOn, List.splitOn_eq_singleton hnone, List.mem_singleton] at hs
  rw [hs, String.ofList_toList]
  refine ⟨?_, ?_, ?_, hnone⟩ <;>
  · intro heq
    rw [heq] at hback
    exact absurd hback (by decide)

/-- Where the slashes matter, slashes alone and backslashes alone make two
keys of one path. -/
theorem key_ne_of_not_slashesAlike {p : String} (h : ¬ SlashesAlike p) :
    (⟨String.ofList (p.toList.map slashChar)⟩ : LibraryReference base).key ≠
      (⟨Markup.backslashed p⟩ : LibraryReference base).key := by
  obtain ⟨hfree, hnames⟩ := not_or.mp h
  simp only [not_forall, Bool.not_eq_false] at hfree hnames
  obtain ⟨c, hc, hslash⟩ := List.any_eq_true.mp hfree
  obtain ⟨s, hs, hname⟩ := hnames
  have hmem : '/' ∈ (String.ofList (p.toList.map slashChar)).toList := by
    rw [String.toList_ofList]
    refine List.mem_map.mpr ⟨c, hc, ?_⟩
    simp only [FileName.isSlash, Bool.or_eq_true, beq_iff_eq] at hslash
    rcases hslash with rfl | rfl <;> rfl
  have hshort : weight (⟨String.ofList (p.toList.map slashChar)⟩ :
      LibraryReference base).normalized.toList < _ :=
    weight_normalized_lt hmem (s := s) (by rwa [String.toList_ofList]) hname
  -- Both texts have one length, and the second one is kept as a whole.
  have hsame : weight (Markup.backslashed p).toList = weight (p.toList.map slashChar) := by
    rw [weight, weight, map_slashChar_backslashed, map_slashChar_idem]
  have hjoined := weight_intercalate (stretches p)
  rw [stretches, Path.intercalate_splitSlashes] at hjoined
  have hpositive := Nat.le_trans (List.length_pos_iff.mpr (Path.splitSlashes_ne_nil _))
    (length_le_spread (stretches p))
  rw [String.toList_ofList] at hshort
  rw [stretches] at hpositive
  intro hkey
  have hlength := congrArg (fun k => k.toList.length) hkey
  rw [length_key, length_key, toList_normalized_backslashed hc hslash, weight_slash, weight_append,
    weight_flatMap, hsame, hjoined] at hlength
  omega

/-- The spellings of a path that differ in the slashes have one key exactly
if the slashes do not matter. -/
theorem key_eq_iff_slashesAlike (p : String) :
    (∀ q, Markup.backslashed q = Markup.backslashed p →
      (⟨q⟩ : LibraryReference base).key = (⟨p⟩ : LibraryReference base).key) ↔ SlashesAlike p := by
  constructor
  · intro hkeys
    by_contra hnot
    refine key_ne_of_not_slashesAlike hnot ((hkeys _ ?_).trans (hkeys _ ?_).symm)
    · exact backslashed_slashed p
    · exact backslashed_backslashed p
  · exact fun h q => key_eq_of_slashesAlike h

end IdeProjects
