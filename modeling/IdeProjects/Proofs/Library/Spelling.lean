import IdeProjects.Proofs.Library.ReferenceSet
import IdeProjects.Proofs.Path.Spelling
import Mathlib.Logic.Relation

/-!
# `IdeProjects.Proofs.Library.Spelling`: one library under several spellings

Units and scans do not agree on how to write a path, so a reference is told
by its key. `Respelled` lists what may be changed about a path: a `.` or
nothing at all between two slashes, a way into a directory and out of it
again, the working directory before a relative path, and the case of
letters. Neither one such change nor any number of them, made or taken back,
changes the key (`key_eq_of_respelled`), and references of one key are one
reference to a set (`respelled_oneLibrary`).

The key comes from the place that the path leads to, whose names are joined,
given one kind of slash and folded. Every change but the last leaves the
place as it is. A change of case leaves it up to the case of letters, which
is gone after folding.
-/

set_option autoImplicit false

namespace IdeProjects

namespace LibraryReference

variable {base : Location}

/-! ### Keys and places -/

/-- The root that the absolute path is written with. -/
def keyRoot (r : LibraryReference base) : Root :=
  if (Path.ofText r.path).root = .doubleSlash then .doubleSlash else .slash

/-- The names of the place that the path leads to. -/
def place (r : LibraryReference base) : Location := (Path.ofText r.path).locate base

/-- The normalized path is the root and the names of the place, with slashes
between them. -/
theorem toList_normalized (r : LibraryReference base) :
    r.normalized.toList = r.keyRoot.text.toList ++ ['/'].intercalate (r.place.map String.toList) := by
  rw [normalized, String.toList_append, String.toList_intercalate]
  rfl

/-- A key is decided by root and place. -/
theorem key_eq_of_place {r s : LibraryReference base} (hroot : r.keyRoot = s.keyRoot)
    (hplace : r.place = s.place) : r.key = s.key := by
  rw [key, key, toList_normalized, toList_normalized, hroot, hplace]

/-- It does not matter whether separators are turned first or letters made
small. -/
theorem slashChar_toLower (c : Char) : slashChar c.toLower = (slashChar c).toLower := by
  have hback : c.toLower = '\\' ↔ c = '\\' := Text.toLower_eq_iff (by decide)
  by_cases hc : c = '\\'
  · subst hc
    rfl
  · rw [slashChar, slashChar, if_neg (hback.not.mpr hc), if_neg hc]

/-- A key does not depend on the case of letters. -/
theorem foldChars_slashChar_toLower (cs : List Char) :
    Text.foldChars ((cs.map Char.toLower).map slashChar) = Text.foldChars (cs.map slashChar) := by
  have hcomm : slashChar ∘ Char.toLower = Char.toLower ∘ slashChar := funext slashChar_toLower
  rw [List.map_map, hcomm, ← List.map_map, Text.foldChars_map_toLower]

/-- Names with slashes between them are made small name by name. -/
theorem map_toLower_intercalate (names : List String) :
    (['/'].intercalate (names.map String.toList)).map Char.toLower =
      ['/'].intercalate ((names.map String.toLower).map String.toList) := by
  have hslash : Char.toLower '/' = '/' := rfl
  induction names with
  | nil => rfl
  | cons n rest ih =>
      cases rest with
      | nil => simp [Text.toList_toLower]
      | cons next others =>
          rw [List.map_cons, List.map_cons, List.intercalate_cons_cons, ← List.map_cons,
            List.map_append, List.map_append, ih]
          simp [Text.toList_toLower, hslash]

/-- Libraries whose paths differ in letter case only have one key. -/
theorem key_eq_of_toLower {r s : LibraryReference base} (h : r.path.toLower = s.path.toLower) :
    r.key = s.key := by
  obtain ⟨hroot, hplace⟩ := Path.locate_map_toLower h base
  have hkeyRoot : r.keyRoot = s.keyRoot := by rw [keyRoot, keyRoot, hroot]
  have hnormalized : r.normalized.toList.map Char.toLower = s.normalized.toList.map Char.toLower := by
    rw [toList_normalized, toList_normalized, List.map_append, List.map_append, hkeyRoot,
      map_toLower_intercalate, map_toLower_intercalate, place, place, hplace]
  rw [key, key, ← foldChars_slashChar_toLower, hnormalized, foldChars_slashChar_toLower]

end LibraryReference

/-! ### Changes of a spelling -/

/-- The path `q` is another spelling of the path `p`, read in the working
directory `base`. -/
inductive Respelled (base : Location) : String → String → Prop where
  /-- A part `.` between two slashes. -/
  | dot {a : String} (ha : ∃ c ∈ a.toList, c ≠ '/') (b : String) :
      Respelled base (a ++ "/" ++ b) (a ++ "/./" ++ b)
  /-- A slash twice. -/
  | doubled {a : String} (ha : ∃ c ∈ a.toList, c ≠ '/') (b : String) :
      Respelled base (a ++ "/" ++ b) (a ++ "//" ++ b)
  /-- Into the directory `c` and out of it again. -/
  | upAndDown {a c : String} (ha : ∃ c ∈ a.toList, c ≠ '/') (hc : Path.IsName c) (b : String) :
      Respelled base (a ++ "/" ++ b) (a ++ "/" ++ c ++ "/../" ++ b)
  /-- The working directory before a relative path. -/
  | absolute {p : String} (hbase : ∀ n ∈ base, Path.IsName n) (hp : p.toList.head? ≠ some '/') :
      Respelled base p ((Path.ofLocation base).child p).text
  /-- The case of letters of ASCII: `String.toLower` changes no others. -/
  | letterCase {p q : String} (h : p.toLower = q.toLower) : Respelled base p q

namespace Respelled

variable {base : Location} {p q : String}

/-- What stands between two slashes does not matter where it leads back to
where it starts. -/
theorem key_eq_between {a m : String} (ha : ∃ c ∈ a.toList, c ≠ '/')
    (hm : ∀ start, Path.walk start (Path.partsOf m.toList) = start) (b : String) :
    (⟨a ++ "/" ++ b⟩ : LibraryReference base).key =
      (⟨a ++ "/" ++ (m ++ "/" ++ b)⟩ : LibraryReference base).key := by
  have hunder := Path.ofText_under ha b
  have hbetween := Path.ofText_between ha m b
  apply LibraryReference.key_eq_of_place
  · rw [LibraryReference.keyRoot, LibraryReference.keyRoot, hunder, hbetween]
  · rw [LibraryReference.place, LibraryReference.place, hunder, hbetween, Path.locate, Path.locate,
      Path.walk_append, Path.walk_append, Path.walk_append, hm]
    rfl

/-- One change leaves the key as it is. The three changes between two parts
lead to the same place, the absolute form is that place itself, and letter
case is folded. -/
theorem key_eq (h : Respelled base p q) :
    (⟨p⟩ : LibraryReference base).key = (⟨q⟩ : LibraryReference base).key := by
  -- In the first three a way that leads back to where it starts stands
  -- between two parts.
  cases h with
  | @dot a ha b =>
      have htext : a ++ "/./" ++ b = a ++ "/" ++ ("." ++ "/" ++ b) :=
        String.toList_injective (by simp)
      rw [htext]
      exact key_eq_between ha (fun start => rfl) b
  | @doubled a ha b =>
      have htext : a ++ "//" ++ b = a ++ "/" ++ ("" ++ "/" ++ b) :=
        String.toList_injective (by simp)
      rw [htext]
      exact key_eq_between ha (fun start => rfl) b
  | @upAndDown a c ha hc b =>
      have htext : a ++ "/" ++ c ++ "/../" ++ b = a ++ "/" ++ ((c ++ "/" ++ "..") ++ "/" ++ b) :=
        String.toList_injective (by simp)
      have hparts : Path.partsOf (c ++ "/" ++ "..").toList = [c, ".."] := by
        have hchars : (c ++ "/" ++ "..").toList = c.toList ++ '/' :: "..".toList := by simp
        rw [hchars, Path.partsOf_append, Path.partsOf_of_isOnePart hc.isOnePart]
        rfl
      rw [htext]
      refine key_eq_between ha (fun start => ?_) b
      rw [hparts, Path.walk_up hc]
      rfl
  | absolute hbase hp =>
      apply LibraryReference.key_eq_of_place
      · have hroot : (Path.ofText p).root = .relative := Path.ofChars_of_head hp
        rw [LibraryReference.keyRoot, LibraryReference.keyRoot, Path.ofText_text_child hbase hp,
          hroot]
        rfl
      · exact (Path.locate_text_child hbase hp).symm
  | letterCase h => exact LibraryReference.key_eq_of_toLower h

end Respelled

/-- Neither does any number of changes, made or taken back. -/
theorem key_eq_of_respelled {base : Location} {p q : String}
    (h : Relation.EqvGen (Respelled base) p q) :
    (⟨p⟩ : LibraryReference base).key = (⟨q⟩ : LibraryReference base).key := by
  induction h with
  | rel p q hstep => exact hstep.key_eq
  | refl p => rfl
  | symm p q _ ih => exact ih.symm
  | trans p q r _ _ ih ih' => exact ih.trans ih'

/-! ### References of one library -/

/-- The references `r` and `s` are one to every set: they are found under
each other, and the one that is added last takes the place of the other. -/
structure OneLibrary {base : Location} (r s : LibraryReference base) : Prop where
  key : r.key = s.key
  same : r.same s = true
  found : ∀ set : ReferenceSet base, (set.add r).contains s = true
  place : ∀ set : ReferenceSet base, (set.add r).add s = set.add s
  size : ∀ set : ReferenceSet base, ((set.add r).add s).size = (set.add r).size

/-- References of one key are one to every set. -/
theorem OneLibrary.of_key {base : Location} {r s : LibraryReference base} (h : r.key = s.key) :
    OneLibrary r s := by
  refine ⟨h, ?_, fun set => ?_, ReferenceSet.add_add h, fun set => ?_⟩
  · rw [LibraryReference.same, beq_iff_eq, h]
  · rw [ReferenceSet.contains_iff_mem_keys, ← h, ReferenceSet.keys_add]
    split
    · assumption
    · exact List.mem_append_right _ (List.mem_singleton_self _)
  · rw [ReferenceSet.add_add h, ← ReferenceSet.length_keys, ← ReferenceSet.length_keys,
      ReferenceSet.keys_add, ReferenceSet.keys_add, h]

/-- References whose paths are spellings of one path are one library, however
many changes lead from the one to the other and in whichever direction. -/
theorem respelled_oneLibrary {base : Location} {p q : String}
    (h : Relation.EqvGen (Respelled base) p q) :
    OneLibrary (⟨p⟩ : LibraryReference base) ⟨q⟩ :=
  OneLibrary.of_key (key_eq_of_respelled h)

/-- A slash twice against a way into a directory and out of it again, from
the root and with other letters. -/
theorem respelled_oneLibrary_four_changes :
    Relation.EqvGen (Respelled ["w"]) "lib//a.dll" "/w/Lib/x/../A.DLL" ∧
      OneLibrary (⟨"lib//a.dll"⟩ : LibraryReference ["w"]) ⟨"/w/Lib/x/../A.DLL"⟩ := by
  have hlib : ∃ c ∈ "lib".toList, c ≠ '/' := ⟨'l', by decide, by decide⟩
  have hdoubled : Respelled ["w"] "lib/a.dll" "lib//a.dll" := .doubled (a := "lib") hlib "a.dll"
  have hup : Respelled ["w"] "lib/a.dll" "lib/x/../a.dll" :=
    .upAndDown (a := "lib") (c := "x") hlib (by constructor <;> decide) "a.dll"
  have hname : Path.IsName "w" := by constructor <;> decide
  have habsolute : Respelled ["w"] "lib/x/../a.dll" "/w/lib/x/../a.dll" :=
    .absolute (p := "lib/x/../a.dll") (by simpa using hname) (by decide)
  have hcase : Respelled ["w"] "/w/lib/x/../a.dll" "/w/Lib/x/../A.DLL" :=
    .letterCase (String.toList_injective (by rw [Text.toList_toLower, Text.toList_toLower]; decide))
  have hchain : Relation.EqvGen (Respelled ["w"]) "lib//a.dll" "/w/Lib/x/../A.DLL" :=
    .trans _ _ _ (.symm _ _ (.rel _ _ hdoubled)) (.trans _ _ _ (.rel _ _ hup)
      (.trans _ _ _ (.rel _ _ habsolute) (.rel _ _ hcase)))
  exact ⟨hchain, respelled_oneLibrary hchain⟩

end IdeProjects
