import IdeProjects.Path.Basic

/-!
# `IdeProjects.Proofs.Path.Entry`: the path of an entry

Every file of a run lies directly in one directory, under the path
`p.child n`. The entry name `n` is the last part of that path and the
directory `p` its parent, so a path decides both, and a limit on lengths
that lets the entry pass lets the directory pass too. A path from the
root whose parts are all names is its own place (`locate_of_names`).
-/

set_option autoImplicit false

namespace IdeProjects

namespace Path

/-- An entry of a directory has one part more. -/
@[simp] theorem parts_child (p : Path) (n : String) : (p.child n).parts = p.parts ++ [n] := rfl

/-- An entry is named from the root if its directory is. -/
@[simp] theorem isAbsolute_child (p : Path) (n : String) :
    (p.child n).isAbsolute = p.isAbsolute := rfl

/-- The directory of an entry is that directory. -/
@[simp] theorem parent_child (p : Path) (n : String) : (p.child n).parent = p := by
  simp [parent, child]

/-- The name of an entry is its last part. -/
@[simp] theorem name_child (p : Path) (n : String) : (p.child n).name = n := by
  simp [name, child]

/-- A null character in the path of an entry is in the directory or in the
name. -/
theorem hasNull_child (p : Path) (n : String) :
    (p.child n).hasNull = (p.hasNull || n.toList.contains '\x00') := by
  simp [hasNull, child]

/-- Going up brings no null character. -/
theorem hasNull_parent {p : Path} (h : p.hasNull = false) : p.parent.hasNull = false := by
  simp only [hasNull, parent, List.any_eq_false] at h ⊢
  exact fun part hpart => h part ((List.dropLast_sublist _).subset hpart)

/-- A path with parts is the path of an entry of the directory above. -/
theorem eq_child_of_parts_ne_nil {p : Path} (h : p.parts ≠ []) :
    ∃ n, p = p.parent.child n := by
  refine ⟨p.parts.getLast h, ?_⟩
  obtain ⟨root, parts⟩ := p
  simp [parent, child, List.dropLast_concat_getLast]

/-- The text of parts grows with each of them. So a path that is not too long
has no directory above it that is. -/
theorem intercalate_le_concat (n : String) (parts : List String) :
    ("/".intercalate parts).utf8ByteSize ≤ ("/".intercalate (parts ++ [n])).utf8ByteSize := by
  induction parts with
  | nil => simp
  | cons part rest ih =>
      have hlong : "/".intercalate (part :: rest ++ [n]) =
          part ++ "/" ++ "/".intercalate (rest ++ [n]) :=
        String.intercalate_cons_of_ne_nil (by simp)
      rw [hlong]
      cases rest with
      | nil =>
          rw [String.intercalate_singleton]
          simp only [String.utf8ByteSize_append]
          omega
      | cons next more =>
          rw [String.intercalate_cons_cons]
          simp only [String.utf8ByteSize_append]
          omega

/-- A directory has no longer path than its entries, as far as a limit
can tell. -/
theorem text_le_of_child {p : Path} {n : String} (limit : Nat) (hlimit : 1 ≤ limit)
    (h : (p.child n).text.utf8ByteSize ≤ limit) : p.text.utf8ByteSize ≤ limit := by
  have hchild : (p.child n).text = p.root.text ++ "/".intercalate (p.parts ++ [n]) := by
    simp [text, child]
  rw [hchild, String.utf8ByteSize_append] at h
  have hle := intercalate_le_concat n p.parts
  unfold text
  split
  · exact hlimit
  · rw [String.utf8ByteSize_append]
    omega

/-- Names take the walk down and nowhere else. -/
theorem walk_of_names {parts : List String}
    (h : ∀ part ∈ parts, part ≠ ".." ∧ part ≠ "" ∧ part ≠ ".") :
    ∀ start : Location, walk start parts = start ++ parts := by
  induction parts with
  | nil => simp [walk]
  | cons part rest ih =>
      intro start
      obtain ⟨hdots, hempty, hdot⟩ := h part (by simp)
      have hstep : step start part = start ++ [part] := by
        rw [step_string, if_neg hdots, if_neg (by simp [hempty, hdot])]
      have hrest := ih (fun other hother => h other (by simp [hother])) (start ++ [part])
      rw [walk] at hrest ⊢
      rw [List.foldl_cons, hstep, hrest, List.append_assoc, List.singleton_append]

/-- A path of names from the root is its own place. -/
theorem locate_of_names {p : Path} (habs : p.isAbsolute = true)
    (h : ∀ part ∈ p.parts, part ≠ ".." ∧ part ≠ "" ∧ part ≠ ".") (base : Location) :
    p.locate base = p.parts := by
  rw [locate, if_pos habs, walk_of_names h, List.nil_append]

end Path

end IdeProjects
