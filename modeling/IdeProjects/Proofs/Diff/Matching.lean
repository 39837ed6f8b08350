import IdeProjects.Diff.Matching
import Mathlib.Data.List.Infix

/-!
# `IdeProjects.Proofs.Diff.Matching`: blocks are common to both lists

The rows of run lengths are those of `runLength`, which reads two lists from
their last lines back (`nextRow_rowFrom`). So the search for the best run is
a walk over the cells of a table, line by line and target by target, and
what one cell keeps the whole search keeps (`bestRun_of_cells`). Two facts
are shown that way:

* `isShared_longestRun`: the run that is found stands in both lists, and all
  blocks together are an alignment of the lists (`aligned_blocks`): in
  order, none overlapping another.
* `longestRun_self`: in two equal lists the search stays on the diagonal of
  the table, for a run beside it is no longer than the one on it, which
  comes first. Extended, it is the whole list (`blocks_self`).
-/

set_option autoImplicit false

namespace IdeProjects

namespace Diff

/-! ### The table of run lengths -/

/-- The length of the run that ends with the last lines of two lists. Both
are given last line first. -/
def runLength : List String → List Target → Nat
  | line :: seen, target :: passed =>
    if target.starts && target.line == line then runLength seen passed + 1 else 0
  | _, _ => 0

/-- The runs that end with the last line seen and with each of the targets;
`passed` are the targets before these, last first. -/
def rowFrom (seen : List String) (passed : List Target) : List Target → List Nat
  | [] => []
  | target :: rest => runLength seen (target :: passed) :: rowFrom seen (target :: passed) rest

/-- Without a line no run ends. -/
@[simp] theorem runLength_nil_left (passed : List Target) : runLength [] passed = 0 := by
  rw [runLength]
  exact nofun

/-- Nor does one without a target. -/
@[simp] theorem runLength_nil_right (seen : List String) : runLength seen [] = 0 := by
  rw [runLength]
  exact nofun

/-- Without a line there are no runs. -/
theorem rowFrom_nil (passed right : List Target) : rowFrom [] passed right = right.map fun _ => 0 := by
  induction right generalizing passed with
  | nil => rfl
  | cons target rest ih => rw [rowFrom, runLength_nil_left, ih, List.map_cons]

/-- The row of the next line follows from the one before. -/
theorem nextRow_rowFrom (line : String) (seen : List String) (right : List Target) :
    nextRow line right (rowFrom seen [] right) = rowFrom (line :: seen) [] right := by
  have hrow : ∀ (rest passed : List Target),
      List.zipWith (fun target before =>
        if target.starts && target.line == line then before + 1 else 0)
        rest (runLength seen passed :: rowFrom seen passed rest) =
      rowFrom (line :: seen) passed rest := by
    intro rest
    induction rest with
    | nil => exact fun _ => rfl
    | cons target rest ih =>
        intro passed
        rw [rowFrom, List.zipWith_cons_cons, ih]
        rfl
  have hnone := hrow right []
  rwa [runLength_nil_right] at hnone

/-- A run stands at the end of both lists. -/
theorem exists_run (seen : List String) (passed : List Target) :
    ∃ run seen' passed', seen = run ++ seen' ∧ passed.map (·.line) = run ++ passed' ∧
      run.length = runLength seen passed := by
  induction seen generalizing passed with
  | nil => exact ⟨[], [], _, rfl, rfl, by simp⟩
  | cons line seen ih =>
      cases passed with
      | nil => exact ⟨[], _, [], rfl, rfl, by simp⟩
      | cons target passed =>
          rw [runLength]
          split
          · rename_i hsame
            obtain ⟨run, seen', passed', hseen, hpassed, hlength⟩ := ih passed
            have hline : target.line = line := by simp_all
            exact ⟨line :: run, seen', passed', by simp [hseen], by simp [hline, hpassed],
              by simp [hlength]⟩
          · exact ⟨[], _, _, rfl, rfl, rfl⟩

/-! ### The search for the best run -/

/-- The better of two runs, of which the second ends before the positions. -/
def better (leftEnd rightEnd : Nat) (best : Block) (size : Nat) : Block :=
  if size > best.size then ⟨leftEnd - size, rightEnd - size, size⟩ else best

/-- What each cell of the table keeps, and each new line, the search for the
best run keeps. -/
theorem bestRun_of_cells {P : List String → List Target → Block → Prop} {left : List String}
    {right : List Target}
    (hcell : ∀ seen target passed best, seen.reverse <+: left →
      (target :: passed).reverse <+: right → P seen passed best →
      P seen (target :: passed) (better seen.length (target :: passed).length best
        (runLength seen (target :: passed))))
    (hline : ∀ line seen best, P seen right.reverse best → P (line :: seen) [] best)
    {best : Block} (hstart : P [] right.reverse best) :
    P left.reverse right.reverse
      (bestRun right 0 (right.map fun _ => 0) best left) := by
  -- First along one row, for all targets that are left.
  have hrow : ∀ (rest passed : List Target) (line : String) (seen : List String) (best : Block),
      (line :: seen).reverse <+: left → right = passed.reverse ++ rest →
      P (line :: seen) passed best →
      P (line :: seen) right.reverse
        (bestInRow seen.length passed.length best (rowFrom (line :: seen) passed rest)) := by
    intro rest
    induction rest with
    | nil =>
        intro passed line seen best _ hright hinv
        simpa [hright, rowFrom, bestInRow] using hinv
    | cons target rest ih =>
        intro passed line seen best hseen hright hinv
        have hsplit : right = (target :: passed).reverse ++ rest := by simp [hright]
        refine ih (target :: passed) line seen _ hseen hsplit ?_
        exact hcell _ target passed best hseen ⟨rest, hsplit.symm⟩ hinv
  -- Then line by line.
  have hall : ∀ (rest seen : List String) (best : Block), left = seen.reverse ++ rest →
      P seen right.reverse best →
      P left.reverse right.reverse
        (bestRun right seen.length (rowFrom seen [] right) best rest) := by
    intro rest
    induction rest with
    | nil =>
        intro seen best hleft hinv
        simpa [hleft, bestRun] using hinv
    | cons line rest ih =>
        intro seen best hleft hinv
        have hsplit : left = (line :: seen).reverse ++ rest := by simp [hleft]
        rw [bestRun, nextRow_rowFrom]
        refine ih (line :: seen) _ hsplit ?_
        exact hrow right [] line seen best ⟨rest, hsplit.symm⟩ rfl (hline line seen best hinv)
  have hwhole := hall left [] best rfl hstart
  rwa [rowFrom_nil] at hwhole

/-! ### Runs that are shared -/

/-- The block is a run of lines that stands in both lists. -/
def Block.IsShared (left right : List String) (b : Block) : Prop :=
  ∃ run leftBefore leftAfter rightBefore rightAfter,
    left = leftBefore ++ run ++ leftAfter ∧ right = rightBefore ++ run ++ rightAfter ∧
    b = ⟨leftBefore.length, rightBefore.length, run.length⟩

/-- The empty block that the search starts from stands in all lists. -/
theorem isShared_zero (left right : List String) : Block.IsShared left right ⟨0, 0, 0⟩ :=
  ⟨[], [], left, [], right, rfl, rfl, rfl⟩

/-- The best run stands in both lists, for each cell that is better than the
best before gives a run of both. -/
theorem isShared_bestRun (left : List String) (right : List Target) :
    (bestRun right 0 (right.map fun _ => 0) ⟨0, 0, 0⟩ left).IsShared left
      (right.map (·.line)) := by
  refine bestRun_of_cells (P := fun _ _ best => best.IsShared left (right.map Target.line))
    ?_ (fun _ _ _ h => h) (isShared_zero _ _)
  rintro seen target passed best ⟨leftAfter, hleft⟩ ⟨rightAfter, hright⟩ hbest
  rw [better]
  split
  · obtain ⟨run, seen', passed', hseen, hpassed, hlength⟩ := exists_run seen (target :: passed)
    have hseenLength := congrArg List.length hseen
    have hpassedLength := congrArg List.length hpassed
    simp only [List.length_map, List.length_append] at hseenLength hpassedLength
    refine ⟨run.reverse, seen'.reverse, leftAfter, passed'.reverse, rightAfter.map (·.line),
      ?_, ?_, ?_⟩
    · rw [← hleft, hseen]
      simp
    · rw [← hright, List.map_append, List.map_reverse, hpassed]
      simp
    · rw [← hlength]
      simp only [List.length_reverse, Block.mk.injEq, and_true]
      omega
  · exact hbest

/-- Two lists start with the lines that are counted. -/
theorem exists_common (xs ys : List String) :
    ∃ common xs' ys', xs = common ++ xs' ∧ ys = common ++ ys' ∧
      common.length = commonLength xs ys := by
  fun_induction commonLength xs ys with
  | case1 as a bs ih =>
      obtain ⟨common, xs', ys', hxs, hys, hlength⟩ := ih
      exact ⟨a :: common, xs', ys', by simp [hxs], by simp [hys], by simp [hlength]⟩
  | case2 => exact ⟨[], _, _, rfl, rfl, rfl⟩
  | case3 => exact ⟨[], _, _, rfl, rfl, rfl⟩

/-- A run that is extended is still shared. It grows by the lines that the two
lists have in common before it and behind it. -/
theorem Block.IsShared.extend {left right : List String} {b : Block} (h : b.IsShared left right) :
    (b.extend left right).IsShared left right := by
  obtain ⟨run, leftBefore, leftAfter, rightBefore, rightAfter, rfl, rfl, rfl⟩ := h
  obtain ⟨before, lb, rb, hlb, hrb, hbefore⟩ :=
    exists_common leftBefore.reverse rightBefore.reverse
  obtain ⟨after, la, ra, hla, hra, hafter⟩ := exists_common leftAfter rightAfter
  have hleft : leftBefore = lb.reverse ++ before.reverse := by
    rw [← List.reverse_append, ← hlb, List.reverse_reverse]
  have hright : rightBefore = rb.reverse ++ before.reverse := by
    rw [← List.reverse_append, ← hrb, List.reverse_reverse]
  refine ⟨before.reverse ++ run ++ after, lb.reverse, la, rb.reverse, ra, ?_, ?_, ?_⟩
  · simp [hleft, hla]
  · simp [hright, hra]
  · have hdrop : ∀ xs ys zs : List String,
        (xs ++ (ys ++ zs)).drop (xs.length + ys.length) = zs := fun xs ys zs => by
      rw [← List.append_assoc, ← List.length_append, List.drop_left]
    simp only [Block.extend, List.append_assoc, List.take_left, hdrop, ← hbefore, ← hafter]
    simp [hleft, hright]
    omega

/-- The longest run of two lists stands in both. -/
theorem isShared_longestRun (left : List String) (right : List Target) :
    (longestRun left right).IsShared left (right.map (·.line)) :=
  (isShared_bestRun left right).extend

/-! ### Blocks in order -/

/-- The blocks align two lists that start at the positions `i` and `j` of
longer ones: in either list there may be lines before a block, then there is
its run, and then the other blocks follow. -/
inductive Aligned : Nat → Nat → List String → List String → List Block → Prop
  | nil {i j : Nat} (xs ys : List String) : Aligned i j xs ys []
  | cons {i j : Nat} {more : List Block} (leftGap rightGap run xs ys : List String)
      (rest : Aligned (i + leftGap.length + run.length) (j + rightGap.length + run.length)
        xs ys more) :
      Aligned i j (leftGap ++ run ++ xs) (rightGap ++ run ++ ys)
        (⟨i + leftGap.length, j + rightGap.length, run.length⟩ :: more)

namespace Aligned

variable {i j : Nat} {xs ys : List String} {bs : List Block}

/-- Lines before the lists are lines before the first block. -/
theorem prepend (leftGap rightGap : List String)
    (h : Aligned (i + leftGap.length) (j + rightGap.length) xs ys bs) :
    Aligned i j (leftGap ++ xs) (rightGap ++ ys) bs := by
  cases h with
  | nil => exact .nil _ _
  | cons leftGap' rightGap' run xs ys rest =>
      have hmore := Aligned.cons (i := i) (j := j) (leftGap ++ leftGap') (rightGap ++ rightGap')
        run xs ys (by simpa only [List.length_append, Nat.add_assoc] using rest)
      simpa only [List.length_append, List.append_assoc, Nat.add_assoc] using hmore

/-- Blocks of the rests of two lists are moved to their places in the lists.
-/
theorem shift (a b : Nat) (h : Aligned i j xs ys bs) :
    Aligned (i + a) (j + b) xs ys (bs.map (·.shift a b)) := by
  induction h with
  | nil xs ys => exact .nil _ _
  | @cons i j more leftGap rightGap run xs ys rest ih =>
      rw [Nat.add_right_comm _ _ a, Nat.add_right_comm _ _ b, Nat.add_right_comm i _ a,
        Nat.add_right_comm j _ b] at ih
      have hmore := Aligned.cons (i := i + a) (j := j + b) leftGap rightGap run xs ys ih
      rwa [Nat.add_right_comm i a, Nat.add_right_comm j b] at hmore

/-- Blocks of two lists, and blocks of those that follow them. -/
theorem append {xs' ys' : List String} {bs' : List Block} (h : Aligned i j xs ys bs)
    (h' : Aligned (i + xs.length) (j + ys.length) xs' ys' bs') :
    Aligned i j (xs ++ xs') (ys ++ ys') (bs ++ bs') := by
  induction h with
  | nil xs ys => exact h'.prepend xs ys
  | cons leftGap rightGap run xs ys rest ih =>
      simp only [List.length_append, ← Nat.add_assoc] at h'
      simpa only [List.append_assoc, List.cons_append] using
        Aligned.cons leftGap rightGap run _ _ (ih h')

/-- Blocks that touch can be joined, from the last one on: two blocks touch if
nothing stands between them in either list. -/
theorem joinTouching (h : Aligned i j xs ys bs) : Aligned i j xs ys (joinTouching bs) := by
  induction h with
  | nil xs ys => exact .nil _ _
  | @cons i j more leftGap rightGap run xs ys rest ih =>
      rw [Diff.joinTouching]
      cases hjoined : Diff.joinTouching more with
      | nil => exact .cons leftGap rightGap run xs ys (.nil _ _)
      | cons next others =>
          rw [hjoined] at ih
          cases ih with
          | cons leftGap' rightGap' run' xs ys rest' =>
              dsimp only
              split
              · -- Nothing stands between the two runs, in neither list.
                rename_i htouch
                obtain ⟨hleft, hright⟩ : leftGap'.length = 0 ∧ rightGap'.length = 0 := by
                  simpa using htouch
                obtain rfl := List.length_eq_zero_iff.mp hleft
                obtain rfl := List.length_eq_zero_iff.mp hright
                have hone := Aligned.cons (i := i) (j := j) leftGap rightGap (run ++ run') xs ys
                  (by simpa only [List.length_append, List.length_nil, Nat.add_zero,
                    Nat.add_assoc] using rest')
                simpa only [List.length_append, List.nil_append, List.append_assoc] using hone
              · exact .cons leftGap rightGap run _ _ (.cons leftGap' rightGap' run' xs ys rest')

end Aligned

/-- The blocks between the lists are in order, by induction on the fuel: the
best run, and the blocks of what stands before and behind it. -/
theorem aligned_blocksWithin (fuel : Nat) (left : List String) (right : List Target) :
    Aligned 0 0 left (right.map (·.line)) (blocksWithin fuel left right) := by
  induction fuel generalizing left right with
  | zero => exact .nil _ _
  | succ fuel ih =>
      obtain ⟨run, leftBefore, leftAfter, rightBefore, rightAfter, hleft, hright, hblock⟩ :=
        isShared_longestRun left right
      rw [blocksWithin]
      dsimp only
      split
      · exact .nil _ _
      · rw [hblock]
        have hbefore := ih (left.take leftBefore.length) (right.take rightBefore.length)
        have hafter := ih (left.drop (leftBefore.length + run.length))
          (right.drop (rightBefore.length + run.length))
        simp only [List.map_take, List.map_drop, hright] at hbefore hafter
        -- What is before the run and what is after it, seen from either list.
        have hrun : ∀ before after : List String,
            (before ++ run ++ after).take before.length = before ∧
            (before ++ run ++ after).drop (before.length + run.length) = after :=
          fun before after => ⟨by simp, by rw [← List.length_append, List.drop_left]⟩
        rw [hleft, (hrun _ _).1, (hrun _ _).1] at hbefore
        rw [hleft, (hrun _ _).2, (hrun _ _).2] at hafter
        have hrest := hafter.shift (leftBefore.length + run.length)
          (rightBefore.length + run.length)
        simp only [Nat.zero_add] at hrest
        have hblocks := hbefore.append (.cons [] [] run _ _ (by simpa using hrest))
        simpa [hleft, hright] using hblocks

/-- The targets of lines are these lines, whatever lines may start a run. -/
theorem map_line_targets (right : List String) : (targets right).map (·.line) = right := by
  simp [targets, Function.comp_def]

/-- The blocks align the two lists. -/
theorem aligned_blocks (left right : List String) : Aligned 0 0 left right (blocks left right) := by
  have hwithin := aligned_blocksWithin (left.length + 1) left (targets right)
  rw [map_line_targets] at hwithin
  exact hwithin.joinTouching

/-! ### Equal lists -/

section

variable (starts : String → Bool) {xs : List String}

/-- Targets for lines, when it depends on the line alone whether it may start
a run. -/
def targetsBy (starts : String → Bool) (xs : List String) : List Target :=
  xs.map fun line => ⟨line, starts line⟩

/-- Beside the diagonal of the table a run is no longer than on it. -/
theorem runLength_le_right (seen passed : List String) :
    runLength seen (targetsBy starts passed) ≤ runLength passed (targetsBy starts passed) := by
  induction seen generalizing passed with
  | nil => simp
  | cons line seen ih =>
      cases passed with
      | nil => simp [targetsBy]
      | cons target passed =>
          have hrest := ih passed
          simp only [targetsBy, List.map_cons, runLength] at hrest ⊢
          split
          · rename_i hsame
            obtain ⟨hstarts, rfl⟩ : starts target = true ∧ target = line := by simpa using hsame
            simpa [hstarts] using hrest
          · exact Nat.zero_le _

/-- A cell of the table has the length of the cell across the diagonal. -/
theorem runLength_comm (seen passed : List String) :
    runLength seen (targetsBy starts passed) = runLength passed (targetsBy starts seen) := by
  induction seen generalizing passed with
  | nil => simp [targetsBy]
  | cons line seen ih =>
      cases passed with
      | nil => simp [targetsBy]
      | cons target passed =>
          have hrest := ih passed
          simp only [targetsBy, List.map_cons, runLength] at hrest ⊢
          by_cases hsame : target = line
          · subst hsame
            rw [hrest]
          · simp [hsame, Ne.symm hsame]

variable {starts}

/-- The best run is on the diagonal of the table and no shorter than the runs
there that the search has come by: those of earlier lines, and that of the
line itself once its column is passed. -/
structure OnDiagonal (starts : String → Bool) (xs seen : List String) (passed : List Target)
    (best : Block) : Prop where
  left_eq : best.left = best.right
  le_best : ∀ ps : List String, ps.reverse <+: xs →
    (ps.length < seen.length ∨ ps.length = seen.length ∧ seen.length ≤ passed.length) →
    runLength ps (targetsBy starts ps) ≤ best.size

/-- At the end of a row the best run is no shorter than those on the diagonal
up to the next line, so the search can go on with it. -/
theorem OnDiagonal.line {seen : List String} {best : Block} (line : String)
    (h : OnDiagonal starts xs seen (targetsBy starts xs).reverse best) :
    OnDiagonal starts xs (line :: seen) [] best where
  left_eq := h.left_eq
  le_best ps hps hplace := by
    refine h.le_best ps hps ?_
    have hlength := hps.length_le
    simp only [List.length_cons, List.length_nil, List.length_reverse, targetsBy,
      List.length_map] at hplace hlength ⊢
    omega

/-- A cell keeps the best run on the diagonal. Beside the diagonal no run is
longer than one that was met on it; on it the run may be the new best. -/
theorem OnDiagonal.cell {seen : List String} {target : Target} {passed : List Target}
    {best : Block} (hseen : seen.reverse <+: xs)
    (htargets : (target :: passed).reverse <+: targetsBy starts xs)
    (h : OnDiagonal starts xs seen passed best) :
    OnDiagonal starts xs seen (target :: passed) (better seen.length (target :: passed).length best
      (runLength seen (target :: passed))) := by
  -- The targets are those of lines of the list up to the column.
  obtain ⟨ps, hps, hpassed⟩ : ∃ ps : List String, ps.reverse <+: xs ∧
      target :: passed = targetsBy starts ps := by
    obtain ⟨zs, hzs, hmap⟩ := List.prefix_map_iff.mp htargets
    refine ⟨zs.reverse, by simpa using hzs, ?_⟩
    rw [targetsBy, List.map_reverse, ← hmap, List.reverse_reverse]
  have hlength : (target :: passed).length = ps.length := by
    rw [hpassed, targetsBy, List.length_map]
  have hpassedLength : passed.length + 1 = ps.length := hlength
  have hrun : runLength seen (target :: passed) = runLength seen (targetsBy starts ps) := by
    rw [hpassed]
  rw [better]
  rcases Nat.lt_trichotomy ps.length seen.length with hlt | heq | hgt
  · -- Before the diagonal: the run on it in the column was met in an earlier row.
    have hle := (runLength_le_right starts seen ps).trans
      (h.le_best ps hps (Or.inl hlt))
    rw [if_neg (by omega)]
    exact ⟨h.left_eq, fun qs hqs hplace => h.le_best qs hqs (by omega)⟩
  · -- On the diagonal the targets are the lines of the row.
    have hone : ∀ qs : List String, qs.reverse <+: xs → qs.length = seen.length → qs = seen := by
      intro qs hqs hqsLength
      have hstart := List.prefix_of_prefix_length_le hqs hseen (by simp [hqsLength])
      exact List.reverse_injective (hstart.eq_of_length (by simp [hqsLength]))
    obtain rfl := hone ps hps heq
    have hplaces : ∀ qs : List String, qs.reverse <+: xs →
        (qs.length < ps.length ∨ qs.length = ps.length ∧ ps.length ≤ (target :: passed).length) →
        runLength qs (targetsBy starts qs) ≤ best.size ∨ qs = ps := fun qs hqs hplace =>
      hplace.imp (fun hlt => h.le_best qs hqs (Or.inl hlt)) fun hpair => hone qs hqs hpair.1
    split
    · refine ⟨by rw [hlength], fun qs hqs hplace => ?_⟩
      show _ ≤ runLength ps (target :: passed)
      rcases hplaces qs hqs hplace with hle | rfl
      · omega
      · exact hrun.ge
    · refine ⟨h.left_eq, fun qs hqs hplace => ?_⟩
      rcases hplaces qs hqs hplace with hle | rfl
      · exact hle
      · omega
  · -- Behind it: the run on it in the row was met before.
    have hself := h.le_best seen hseen (Or.inr ⟨rfl, by omega⟩)
    have hle := (runLength_comm starts seen ps).le.trans
      ((runLength_le_right starts ps seen).trans hself)
    rw [if_neg (by omega)]
    exact ⟨h.left_eq, fun qs hqs hplace => h.le_best qs hqs (by omega)⟩

/-- In two equal lists the best run of all is on the diagonal, and no run
there is longer. -/
theorem onDiagonal_bestRun (starts : String → Bool) (xs : List String) :
    OnDiagonal starts xs xs.reverse (targetsBy starts xs).reverse
      (bestRun (targetsBy starts xs) 0 ((targetsBy starts xs).map fun _ => 0) ⟨0, 0, 0⟩ xs) := by
  refine bestRun_of_cells (fun seen target passed best hseen htargets h => h.cell hseen htargets)
    (fun line seen best h => h.line line) ⟨rfl, fun ps _ hplace => ?_⟩
  obtain rfl : ps = [] := List.length_eq_zero_iff.mp (by simpa using hplace)
  simp

/-- A list agrees with itself in all its lines. -/
theorem commonLength_self (xs : List String) : commonLength xs xs = xs.length := by
  induction xs with
  | nil => rfl
  | cons x rest ih => rw [commonLength, if_pos rfl, ih, List.length_cons]

/-- A run on the diagonal extends over the whole list. -/
theorem extend_self {b : Block} (hshared : b.IsShared xs xs) (hdiagonal : b.left = b.right) :
    b.extend xs xs = ⟨0, 0, xs.length⟩ := by
  have hend : b.right + b.size ≤ xs.length := by
    obtain ⟨run, leftBefore, leftAfter, rightBefore, rightAfter, _, hright, rfl⟩ := hshared
    have hlength := congrArg List.length hright
    simp only [List.length_append] at hlength ⊢
    omega
  rw [Block.extend, hdiagonal, commonLength_self, commonLength_self, List.length_reverse,
    List.length_take, List.length_drop]
  simp only [Block.mk.injEq]
  omega

/-- The longest run of equal lists is the whole list. -/
theorem longestRun_self (xs : List String) : longestRun xs (targets xs) = ⟨0, 0, xs.length⟩ := by
  -- Whether a line may start a run depends on the line and on the list.
  obtain ⟨starts, htargets⟩ : ∃ starts, targets xs = targetsBy starts xs := ⟨_, rfl⟩
  have hshared := isShared_bestRun xs (targets xs)
  rw [map_line_targets, htargets] at hshared
  rw [longestRun, map_line_targets, htargets]
  exact extend_self hshared (onDiagonal_bestRun starts xs).left_eq

/-- Equal lists have one block. -/
theorem blocks_self (x : String) (xs : List String) :
    blocks (x :: xs) (x :: xs) = [⟨0, 0, (x :: xs).length⟩] := by
  have hempty : ∀ (fuel : Nat) (right : List Target), blocksWithin fuel [] right = [] := by
    intro fuel right
    cases fuel with
    | zero => rfl
    | succ fuel => simp [blocksWithin, longestRun, bestRun, Block.extend, commonLength]
  rw [blocks, blocksWithin, longestRun_self]
  simp [hempty, joinTouching, Block.shift]

end

end Diff

end IdeProjects
