import IdeProjects.Diff.Unified
import IdeProjects.Proofs.Diff.Matching

/-!
# `IdeProjects.Proofs.Diff.Unified`: a diff shows that lines differ

A diff is empty if and only if the two texts have the same lines
(`unifiedDiff_eq_empty_iff`). If they have not, it shows a line of the one
that is taken out or a line of the other that is put in (`ShowsChange`).

Such a line exists because the blocks align the lists: lists that differ
have lines before, between or after the blocks (`Aligned.exists_change`),
and these make an edit that is no unchanged stretch. What follows cuts
unchanged stretches only, so the edit comes through to a hunk
(`exists_hunk`) and its lines are printed.
-/

set_option autoImplicit false

namespace IdeProjects

namespace Diff

/-! ### Edits that change something -/

/-- The edit takes out or puts in a line, of lists with so many lines. -/
def Edit.Changes (leftSize rightSize : Nat) (e : Edit) : Prop :=
  e.tag ≠ .equal ∧ (e.leftStart < e.leftEnd ∧ e.leftEnd ≤ leftSize ∨
    e.rightStart < e.rightEnd ∧ e.rightEnd ≤ rightSize)

/-- Between two blocks there is an edit if there are lines. -/
theorem exists_gap {leftSize rightSize leftStart leftEnd rightStart rightEnd : Nat}
    (h : leftStart < leftEnd ∨ rightStart < rightEnd) (hleft : leftEnd ≤ leftSize)
    (hright : rightEnd ≤ rightSize) :
    ∃ e, gap? leftStart leftEnd rightStart rightEnd = some e ∧ e.Changes leftSize rightSize := by
  rw [gap?]
  split
  · rename_i hlt
    split
    · exact ⟨_, rfl, nofun, Or.inl ⟨hlt, hleft⟩⟩
    · exact ⟨_, rfl, nofun, Or.inl ⟨hlt, hleft⟩⟩
  · rename_i hnot
    have hlt := h.resolve_left hnot
    rw [if_pos hlt]
    exact ⟨_, rfl, nofun, Or.inr ⟨hlt, hright⟩⟩

/-- Lists that differ have an edit that changes something, whatever blocks
align them. -/
theorem Aligned.exists_change {i j : Nat} {xs ys : List String} {bs : List Block}
    (h : Aligned i j xs ys bs) (hne : xs ≠ ys) :
    ∃ e ∈ editsFrom (i + xs.length) (j + ys.length) i j bs,
      e.Changes (i + xs.length) (j + ys.length) := by
  induction h with
  | @nil i j xs ys =>
      -- Behind the last run there is a gap, and one side of it has lines.
      have hlines : i < i + xs.length ∨ j < j + ys.length := by
        by_contra hnone
        apply hne
        rw [List.length_eq_zero_iff.mp (by omega : xs.length = 0),
          List.length_eq_zero_iff.mp (by omega : ys.length = 0)]
      obtain ⟨e, hgap, he⟩ := exists_gap hlines (Nat.le_refl _) (Nat.le_refl _)
      exact ⟨e, by simp [editsFrom, hgap], he⟩
  | @cons i j more leftGap rightGap run xs ys rest ih =>
      have hleftSize : i + (leftGap ++ run ++ xs).length =
          i + leftGap.length + run.length + xs.length := by
        simp only [List.length_append, Nat.add_assoc]
      have hrightSize : j + (rightGap ++ run ++ ys).length =
          j + rightGap.length + run.length + ys.length := by
        simp only [List.length_append, Nat.add_assoc]
      rw [hleftSize, hrightSize, editsFrom]
      -- A gap in front of the run is a change. Without one the rest has it.
      by_cases hgaps : leftGap = [] ∧ rightGap = []
      · -- The runs are the same, so the lists differ behind them.
        obtain ⟨rfl, rfl⟩ := hgaps
        obtain ⟨e, hmem, he⟩ := ih (fun heq => hne (by rw [heq]))
        exact ⟨e, List.mem_append_right _ (List.mem_cons_of_mem _ hmem), he⟩
      · have hlines : i < i + leftGap.length ∨ j < j + rightGap.length := by
          by_contra hnone
          exact hgaps ⟨List.length_eq_zero_iff.mp (by omega), List.length_eq_zero_iff.mp (by omega)⟩
        obtain ⟨e, hgap, he⟩ : ∃ e, gap? i (i + leftGap.length) j (j + rightGap.length) = some e ∧
            e.Changes (i + leftGap.length + run.length + xs.length)
              (j + rightGap.length + run.length + ys.length) :=
          exists_gap hlines (by omega) (by omega)
        exact ⟨e, List.mem_append_left _ (by simp [hgap]), he⟩

/-- Lists that differ have an edit that takes out a line of theirs or puts one
in. -/
theorem exists_change {left right : List String} (hne : left ≠ right) :
    ∃ e ∈ edits left right, e.Changes left.length right.length := by
  simpa only [edits, Nat.zero_add] using (aligned_blocks left right).exists_change hne

/-! ### Hunks keep what changes -/

section

variable {e : Edit}

/-- Cutting off the unchanged lines at the start keeps every change. -/
theorem mem_trimStart {es : List Edit} (he : e.tag ≠ .equal) (h : e ∈ es) : e ∈ trimStart es := by
  cases es with
  | nil => cases h
  | cons first rest =>
      rw [trimStart]
      rcases List.mem_cons.mp h with rfl | hrest
      · simp [he]
      · exact List.mem_cons_of_mem _ hrest

/-- So does cutting them off at the end. -/
theorem mem_trimEnd {es : List Edit} (he : e.tag ≠ .equal) (h : e ∈ es) : e ∈ trimEnd es := by
  fun_induction trimEnd es with
  | case1 => cases h
  | case2 last =>
      obtain rfl := List.mem_singleton.mp h
      simp [he]
  | case3 first rest _ ih =>
      rcases List.mem_cons.mp h with rfl | hrest
      · exact List.mem_cons_self
      · exact List.mem_cons_of_mem _ (ih hrest)

/-- What changes something is in a group, whether it was put there before or
follows. -/
theorem exists_group {group es : List Edit} (he : e.tag ≠ .equal) (h : e ∈ group ∨ e ∈ es) :
    ∃ g ∈ groupEdits group es, e ∈ g := by
  induction es generalizing group with
  | nil =>
      have hmem : e ∈ group := h.resolve_right nofun
      have hhunk : isHunk group = true :=
        List.any_eq_true.mpr ⟨e, hmem, by simpa using he⟩
      rw [groupEdits, if_pos hhunk]
      exact ⟨_, List.mem_singleton_self _, List.mem_reverse.mpr hmem⟩
  | cons next rest ih =>
      rw [groupEdits]
      split
      · -- A cut is made in an unchanged stretch.
        rename_i hcut
        have hnext : next.tag = .equal := by simp_all
        have hne : e ≠ next := fun heq => he (heq ▸ hnext)
        rcases h with hgroup | hrest
        · exact ⟨_, List.mem_cons_self, by simp [hgroup]⟩
        · obtain ⟨g, hg, hmem⟩ := ih (Or.inr ((List.mem_cons.mp hrest).resolve_left hne))
          exact ⟨g, List.mem_cons_of_mem _ hg, hmem⟩
      · refine ih ?_
        rcases h with hgroup | hrest
        · exact Or.inl (List.mem_cons_of_mem _ hgroup)
        · rcases List.mem_cons.mp hrest with rfl | hmore
          · exact Or.inl List.mem_cons_self
          · exact Or.inr hmore

/-- Every change is in a hunk. -/
theorem exists_hunk {left right : List String} (he : e.tag ≠ .equal) (h : e ∈ edits left right) :
    ∃ g ∈ hunks left right, e ∈ g :=
  exists_group he (Or.inr (mem_trimEnd he (mem_trimStart he h)))

end

/-- Equal lists have no hunks. -/
theorem hunks_self (xs : List String) : hunks xs xs = [] := by
  cases xs with
  | nil => rfl
  | cons x rest =>
      -- One unchanged stretch, of which three lines are left.
      rw [hunks, edits, blocks_self]
      simp [editsFrom, gap?, trimStart, trimEnd, groupEdits, isHunk, Edit.lastLines,
        Edit.firstLines, context]
      omega

/-! ### The lines that are printed -/

/-- A stretch with a line shows a line under its mark. -/
theorem exists_marked (mark : String) {lines : List String} {start finish : Nat}
    (hlt : start < finish) (hle : finish ≤ lines.length) :
    ∃ l ∈ lines, mark ++ l ∈ marked mark lines start finish := by
  have hsome : (lines.drop start).take (finish - start) ≠ [] := by
    rw [← List.length_pos_iff, List.length_take, List.length_drop]
    omega
  obtain ⟨l, hl⟩ := List.exists_mem_of_ne_nil _ hsome
  exact ⟨l, List.mem_of_mem_drop (List.mem_of_mem_take hl), List.mem_map.mpr ⟨l, hl, rfl⟩⟩

/-- Some of the lines take out a line of the one list or put in a line of the
other. -/
def ShowsLine (left right lines : List String) : Prop :=
  (∃ l ∈ left, "-" ++ l ∈ lines) ∨ ∃ l ∈ right, "+" ++ l ∈ lines

/-- More lines show no less. -/
theorem ShowsLine.mono {left right lines lines' : List String} (h : ShowsLine left right lines)
    (hsub : lines ⊆ lines') : ShowsLine left right lines' :=
  h.imp (fun ⟨l, hl, hmem⟩ => ⟨l, hl, hsub hmem⟩) fun ⟨l, hl, hmem⟩ => ⟨l, hl, hsub hmem⟩

/-- The lines of a change show a line that goes or a line that comes. -/
theorem Edit.Changes.showsLine {left right : List String} {e : Edit}
    (h : e.Changes left.length right.length) : ShowsLine left right (e.lines left right) := by
  obtain ⟨htag, hlines⟩ := h
  have heq : e.lines left right =
      marked "-" left e.leftStart e.leftEnd ++ marked "+" right e.rightStart e.rightEnd := by
    rw [Edit.lines]
    split
    · contradiction
    · rfl
  rw [heq]
  rcases hlines with ⟨hlt, hle⟩ | ⟨hlt, hle⟩
  · obtain ⟨l, hl, hmem⟩ := exists_marked "-" hlt hle
    exact Or.inl ⟨l, hl, List.mem_append_left _ hmem⟩
  · obtain ⟨l, hl, hmem⟩ := exists_marked "+" hlt hle
    exact Or.inr ⟨l, hl, List.mem_append_right _ hmem⟩

/-- The lines of an edit are among those of its hunk. -/
theorem lines_subset_hunkLines {left right : List String} {e : Edit} {g : List Edit} (h : e ∈ g) :
    e.lines left right ⊆ hunkLines left right g := by
  have hne : g ≠ [] := List.ne_nil_of_mem h
  rw [hunkLines, List.head?_eq_some_head hne, List.getLast?_eq_some_getLast hne]
  exact fun line hline => List.mem_cons_of_mem _ (List.mem_flatMap.mpr ⟨e, h, hline⟩)

/-- Lists that differ have a hunk with a line that is taken out or put in. -/
theorem showsLine_hunks {left right : List String} (hne : left ≠ right) :
    ShowsLine left right ((hunks left right).flatMap (hunkLines left right)) := by
  obtain ⟨e, hedit, he⟩ := exists_change hne
  obtain ⟨g, hg, hmem⟩ := exists_hunk he.1 hedit
  exact he.showsLine.mono fun line hline =>
    List.mem_flatMap.mpr ⟨g, hg, lines_subset_hunkLines hmem hline⟩

end Diff

/-! ### The diff of two texts -/

/-- The diff of a file shows a line of its text that is taken out, or a line
of the new text that is put in, under the names of the two sides. -/
def ShowsChange (path existing content diff : String) : Prop :=
  ∃ body, diff = "\n".intercalate (("--- a/" ++ path) :: ("+++ b/" ++ path) :: body) ∧
    Diff.ShowsLine (Text.splitLines existing) (Text.splitLines content) body

section

variable {path existing content : String}

/-- A diff that shows a change is not empty. -/
theorem ShowsChange.ne_empty {diff : String} (h : ShowsChange path existing content diff) :
    diff ≠ "" := by
  obtain ⟨body, rfl, _⟩ := h
  intro heq
  have hchars := congrArg String.toList heq
  rw [String.toList_intercalate] at hchars
  simp at hchars

/-- The diff of texts with the same lines is empty. -/
theorem unifiedDiff_of_sameLines (h : Text.splitLines existing = Text.splitLines content) :
    unifiedDiff path existing content = "" := by
  rw [unifiedDiff, h, Diff.unifiedLines, Diff.hunks_self]
  rfl

/-- The diff of texts whose lines differ shows a change. -/
theorem showsChange_unifiedDiff (h : Text.splitLines existing ≠ Text.splitLines content) :
    ShowsChange path existing content (unifiedDiff path existing content) := by
  have hshown := Diff.showsLine_hunks h
  refine ⟨_, ?_, hshown⟩
  rw [unifiedDiff, Diff.unifiedLines]
  split
  · rename_i hnone
    rw [hnone] at hshown
    rcases hshown with ⟨_, _, hmem⟩ | ⟨_, _, hmem⟩ <;> cases hmem
  · rfl

/-- A diff is empty if and only if the texts have the same lines. -/
theorem unifiedDiff_eq_empty_iff :
    unifiedDiff path existing content = "" ↔
      Text.splitLines existing = Text.splitLines content := by
  refine ⟨fun hempty => ?_, unifiedDiff_of_sameLines⟩
  by_contra hne
  exact (showsChange_unifiedDiff hne).ne_empty hempty

end

end IdeProjects
