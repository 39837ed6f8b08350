import IdeProjects.Proofs.Path.Spelling
import IdeProjects.Proofs.Text.Cut

/-!
# `IdeProjects.Proofs.Path.Written`: the text of a path is the path

A path is shown and stored as its text, and read again where it is needed.
That gives the same path back if its parts are such as a text can have
(`ofText_text`). All paths that are read are so, and the ones that are built
from them stay so: a path that is read from a directory, and an entry of a
directory under a name.
-/

set_option autoImplicit false

namespace IdeProjects

namespace Path

/-- The parts of the path are such as a text can have. -/
def IsWritten (p : Path) : Prop := ∀ part ∈ p.parts, IsOnePart part

/-- A path that was read from a text can be written out. -/
theorem isWritten_ofText (s : String) : (ofText s).IsWritten := by
  intro part hpart
  obtain ⟨cs, hcs, rfl⟩ := List.mem_map.mp hpart
  obtain ⟨hcut, hmeans⟩ := List.mem_filter.mp hcs
  rw [splitSlashes_eq_splitOn] at hcut
  rw [IsOnePart, String.toList_ofList]
  exact ⟨hmeans, Text.not_mem_of_mem_splitOn hcut⟩

/-- So can a path below another, if both can. -/
theorem IsWritten.join {p other : Path} (hp : p.IsWritten) (hother : other.IsWritten) :
    (p.join other).IsWritten := by
  rw [Path.join]
  split
  · exact hother
  · intro part hpart
    rcases List.mem_append.mp hpart with hmem | hmem
    · exact hp part hmem
    · exact hother part hmem

/-- So can an entry of a directory, if its name is one. -/
theorem IsWritten.child {p : Path} {n : String} (hp : p.IsWritten) (hn : IsName n) :
    (p.child n).IsWritten := by
  intro part hpart
  rcases List.mem_append.mp hpart with hmem | hmem
  · exact hp part hmem
  · rw [List.mem_singleton.mp hmem]
    exact hn.isOnePart

/-- Parts are joined to a text that starts with no slash. -/
theorem head?_intercalate {parts : List String} (h : ∀ part ∈ parts, IsOnePart part) :
    (['/'].intercalate (parts.map String.toList)).head? ≠ some '/' := by
  cases parts with
  | nil => simp
  | cons part rest =>
      obtain ⟨hmeans, hslash⟩ := h part List.mem_cons_self
      cases hchars : part.toList with
      | nil =>
          rw [hchars] at hmeans
          exact absurd hmeans (by decide)
      | cons c more =>
          have hc : c ≠ '/' := fun heq => hslash (by simp [hchars, heq])
          cases rest <;> simp [hchars, hc]

/-- Parts with slashes between them are the parts of the path. -/
theorem partsOf_intercalate_parts {parts : List String} (h : ∀ part ∈ parts, IsOnePart part) :
    partsOf (['/'].intercalate (parts.map String.toList)) = parts := by
  rcases List.eq_nil_or_concat parts with rfl | ⟨init, last, rfl⟩
  · rfl
  · rw [List.concat_eq_append] at h ⊢
    rw [partsOf_intercalate (fun part hpart => h part (by simp [hpart])),
      partsOf_of_isOnePart (h last (by simp))]

/-- The text of a path is read as the path. The root shows at the front, since
no part starts with a slash, and the parts are cut at the slashes that were
put between them. -/
theorem ofText_text {p : Path} (h : p.IsWritten) : ofText p.text = p := by
  obtain ⟨root, parts⟩ := p
  rw [text]
  split
  · rename_i hempty
    obtain ⟨rfl, rfl⟩ : root = .relative ∧ parts = [] := by simpa using hempty
    rfl
  · have hhead := head?_intercalate h
    have hparts := partsOf_intercalate_parts h
    have hchars : (root.text ++ "/".intercalate parts).toList =
        root.text.toList ++ ['/'].intercalate (parts.map String.toList) := by
      rw [String.toList_append, String.toList_intercalate]
      rfl
    rw [ofText, hchars]
    dsimp only at hhead hparts
    generalize ['/'].intercalate (parts.map String.toList) = cs at hhead hparts ⊢
    -- The first part starts with no slash, so the slashes in front are
    -- those of the root.
    cases root with
    | relative =>
        show Path.mk (Root.ofChars cs) (partsOf cs) = _
        rw [ofChars_of_head hhead, hparts]
    | slash =>
        show Path.mk (Root.ofChars ('/' :: cs)) (partsOf ('/' :: cs)) = _
        rw [ofChars_slash hhead, partsOf_slash, hparts]
    | doubleSlash =>
        show Path.mk (Root.ofChars ('/' :: '/' :: cs)) (partsOf ('/' :: '/' :: cs)) = _
        rw [ofChars_doubleSlash hhead, partsOf_slash, partsOf_slash, hparts]

end Path

end IdeProjects
