import IdeProjects.Text.Lines

/-!
# `IdeProjects.Proofs.Text.Lines`: what the lines of a text leave out

The lines of a text are read without their breaks. So two texts can have the
same lines and differ: whether the last line ends makes no difference
(`splitLines_append_newline`). The empty text is the only one without lines
(`splitLines_eq_nil_iff`).
-/

set_option autoImplicit false

namespace IdeProjects.Text

/-- There are no lines only if nothing is left and none was begun. -/
theorem linesAfter_eq_nil_iff {line cs : List Char} :
    linesAfter line cs = [] ↔ line = [] ∧ cs = [] := by
  fun_induction linesAfter line cs with
  | case1 line => simp_all
  | case2 line => simp_all
  | case3 line rest ih => simp
  | case4 line c rest _ _ ih => simp
  | case5 line c rest _ _ ih => simp_all

/-- Only the empty text has no lines. -/
theorem splitLines_eq_nil_iff {s : String} : splitLines s = [] ↔ s = "" := by
  rw [splitLines, List.map_eq_nil_iff, linesAfter_eq_nil_iff, String.toList_eq_nil_iff]
  simp

/-- The step at one character, unless it is the first half of a break. -/
theorem linesAfter_cons {c : Char} {rest : List Char} (line : List Char)
    (h : c ≠ '\r' ∨ rest.head? ≠ some '\n') :
    linesAfter line (c :: rest) =
      if isLineBreak c then line.reverse :: linesAfter [] rest
      else linesAfter (c :: line) rest := by
  rw [linesAfter]
  rintro rest' rfl rfl
  simp at h

/-- After a character that is no break a line feed at the end changes
nothing. -/
theorem linesAfter_append_newline {c : Char} (hc : isLineBreak c = false) (line cs : List Char) :
    linesAfter line (cs ++ c :: ['\n']) = linesAfter line (cs ++ [c]) := by
  have hr : c ≠ '\r' := by
    rintro rfl
    cases hc
  have hn : c ≠ '\n' := by
    rintro rfl
    cases hc
  have hlast : ∀ line, linesAfter line (c :: ['\n']) = linesAfter line [c] := by
    intro line
    rw [linesAfter_cons _ (Or.inl hr), linesAfter_cons _ (Or.inl hr), hc]
    simp [linesAfter, isLineBreak]
  have hhead : ∀ {d : Char} {rest more : List Char},
      (∀ rest', d = '\r' → rest = '\n' :: rest' → False) →
      d ≠ '\r' ∨ (rest ++ c :: more).head? ≠ some '\n' := by
    intro d rest more hnot
    by_cases hd : d = '\r'
    · cases rest with
      | nil => exact Or.inr (by simpa using hn)
      | cons e rest' => exact Or.inr fun heq => hnot rest' hd (by simpa using heq)
    · exact Or.inl hd
  -- On the recursion of `linesAfter`: two of its cases are at the end of
  -- the text, the others go on behind a line break or a character.
  fun_induction linesAfter line cs with
  | case1 line => exact hlast line
  | case2 line => exact hlast line
  | case3 line rest ih =>
      simp only [List.cons_append, linesAfter, ih]
  | case4 line d rest hnot hbreak ih =>
      rw [List.cons_append, List.cons_append, linesAfter_cons _ (hhead hnot),
        linesAfter_cons _ (hhead hnot), if_pos hbreak, if_pos hbreak, ih]
  | case5 line d rest hnot hbreak ih =>
      rw [List.cons_append, List.cons_append, linesAfter_cons _ (hhead hnot),
        linesAfter_cons _ (hhead hnot), if_neg hbreak, if_neg hbreak, ih]

/-- A text whose last line does not end has the lines of the one where it
does. -/
theorem splitLines_append_newline {s : String} {cs : List Char} {c : Char}
    (hs : s.toList = cs ++ [c]) (hc : isLineBreak c = false) :
    splitLines (s ++ "\n") = splitLines s := by
  rw [splitLines, splitLines, String.toList_append, hs, List.append_assoc]
  exact congrArg (List.map String.ofList) (linesAfter_append_newline hc [] cs)

end IdeProjects.Text
