import IdeProjects.Proofs.Diff.Unified
import IdeProjects.Proofs.Lists
import IdeProjects.Proofs.Sync.Modes
import IdeProjects.Proofs.Text.Lines
import IdeProjects.Proofs.Text.Utf8
import Mathlib.Data.List.Forall2

/-!
# `IdeProjects.Proofs.Sync.Drift`: which drift a check shows

A check calls a file drifted if its bytes are not those of its text, and
prints a diff for it. The diff compares lines of characters: line ends are
left out, and bytes that are no text are shown as replacement characters. So
it shows a change if and only if the lines differ, and is empty otherwise
(`DriftOf`): for a file that has other line ends, lacks the last one, or has
malformed bytes where the text has replacement characters.

That is so of one target (`drift_of_bringUpToDate`) and then of all: the
drifted files of a run and its diffs are in step (`sync_showsDrift_iff`).
-/

set_option autoImplicit false

namespace IdeProjects

open FileTree

/-- The text of a file as a diff shows it. A file that is not there shows
none. -/
def shownText (existing : Option (List UInt8)) : String :=
  String.ofList (Text.Utf8.decodeLossy (existing.getD []))

/-- The look at the file of a target finds other bytes than those of its
text, and the diff is what is printed for that. -/
structure DriftOf (t : FileTree) (target : Target) (existing : Option (List UInt8))
    (diff : String) : Prop where
  look : Session.outcome (existingBytes? target.path) t = .ok existing
  differs : existing ≠ some (Text.Utf8.encode target.content)
  /-- A line that is taken out or put in is shown if and only if the lines
  differ. -/
  shown_iff : ShowsChange target.path.text (shownText existing) target.content diff ↔
    Text.splitLines (shownText existing) ≠ Text.splitLines target.content
  /-- Otherwise nothing is shown. -/
  empty_iff : diff = "" ↔
    Text.splitLines (shownText existing) = Text.splitLines target.content

/-- A file that has drifted, and the diff for it, are those of one of the
targets. -/
def DriftAmong (t : FileTree) (targets : List Target) (file : FileStatus) (diff : String) : Prop :=
  ∃ target ∈ targets, file = ⟨target.path, .drift, target.unit⟩ ∧
    ∃ existing, DriftOf t target existing diff

/-! ### One target -/

section

variable {target : Target} {t t' : FileTree}

/-- A file that does not hold the text drifts, and its diff is that of what it
holds. -/
theorem driftOf_fileDiff {existing : Option (List UInt8)}
    (hlook : Session.outcome (existingBytes? target.path) t = .ok existing)
    (hdiffers : existing ≠ some (Text.Utf8.encode target.content)) :
    DriftOf t target existing (fileDiff target.path existing target.content) where
  look := hlook
  differs := hdiffers
  shown_iff := by
    refine ⟨fun hshown hsame => hshown.ne_empty ?_, showsChange_unifiedDiff⟩
    exact unifiedDiff_of_sameLines hsame
  empty_iff := unifiedDiff_eq_empty_iff

/-- A target that a check does not end at drifts and has a diff, or
neither. -/
theorem drift_of_bringUpToDate {outcome : Outcome}
    (hrun : (target.bringUpToDate (.check true) : Session Outcome) t = .ok outcome t') :
    (∃ existing diff, outcome = .done ⟨target.path, .drift, target.unit⟩ (some diff) ∧
      DriftOf t target existing diff) ∨
    outcome.diff? = none ∧ ∀ file, outcome.file? = some file → file.status ≠ .drift := by
  rw [bringUpToDate_apply, writeIfChanged_apply] at hrun
  cases hlook : Session.outcome (existingBytes? target.path) t with
  | error fault =>
      rw [hlook] at hrun
      cases fault with
      | file error =>
          cases hrun
          exact Or.inr ⟨rfl, nofun⟩
      | _ => cases hrun
  | ok existing =>
      by_cases hsame : existing = some (Text.Utf8.encode target.content)
      · simp only [hlook, if_pos hsame] at hrun
        cases hrun
        refine Or.inr ⟨rfl, fun file hfile => ?_⟩
        cases hfile
        exact nofun
      · simp only [hlook, if_neg hsame] at hrun
        cases hrun
        exact Or.inl ⟨existing, _, rfl, driftOf_fileDiff hlook hsame⟩

end

/-! ### All targets -/

/-- The diffs of a check are those of the files that have drifted, in the
same order. -/
theorem forall₂_drift {targets : List Target} {t t' : FileTree} {outcomes : List Outcome}
    (hrun : (bringAllUpToDate (.check true) targets : Session (List Outcome)) t =
      .ok outcomes t') :
    List.Forall₂ (DriftAmong t targets)
      ((outcomes.filterMap Outcome.file?).filter (·.status = .drift))
      (outcomes.filterMap Outcome.diff?) := by
  induction targets generalizing outcomes with
  | nil =>
      cases hrun
      exact .nil
  | cons target rest ih =>
      obtain ⟨outcome, others, t₁, hself, hrest, rfl⟩ := bringAllUpToDate_cons_eq_ok hrun
      -- A check changes nothing, so the others are looked at in the same tree.
      obtain ⟨_, rfl⟩ := (readOnly_bringUpToDate (by simp) target).eq_ok_iff.mp hself
      have hothers : List.Forall₂ (DriftAmong t (target :: rest))
          ((others.filterMap Outcome.file?).filter (·.status = .drift))
          (others.filterMap Outcome.diff?) :=
        (ih hrest).imp fun _ _ ⟨other, hother, hdrift⟩ =>
          ⟨other, List.mem_cons_of_mem _ hother, hdrift⟩
      rcases drift_of_bringUpToDate hself with
        ⟨existing, diff, rfl, hdrift⟩ | ⟨hdiff, hfile⟩
      · exact .cons ⟨target, List.mem_cons_self, rfl, existing, hdrift⟩ hothers
      · rw [List.filterMap_cons_none hdiff]
        cases hnone : outcome.file? with
        | none => rwa [List.filterMap_cons_none hnone]
        | some file =>
            rw [List.filterMap_cons_some hnone,
              List.filter_cons_of_neg (by simpa using hfile file hnone)]
            exact hothers

/-! ### A run -/

section

variable {base : Location} {request : SyncRequest} {entries : List Snapshot.Entry}
  {t t' : FileTree}

/-- For each file that a check with diffs calls drifted it prints one diff,
in the same order. The diff shows a line that is taken out of the file or one
that the text puts in, if and only if the lines of the two differ; if they do
not, it is empty. -/
theorem sync_showsDrift_iff {dryRun : Bool} {run : SyncRun}
    (hrun : (sync base { request with mode := .ofSwitches true dryRun true } entries :
      Session SyncRun) t = .ok run t') :
    ∃ scan,
      Session.outcome (scanLibraries base request.installRoot request.layout) t = .ok scan ∧
      List.Forall₂
        (DriftAmong t (runTargets request scan.libraries (Snapshot.ofEntries entries).units))
        (run.result.files.filter (·.status = .drift)) run.diffs := by
  obtain ⟨scan, outcomes, hscan, _, hall, rfl⟩ := sync_eq_ok hrun
  exact ⟨scan, hscan, forall₂_drift hall⟩

end

/-! ### A check without units -/

/-- The path of the solution in the small setting. -/
def smallSolution : Path := ⟨.slash, ["out", "out.sln"]⟩

/-- A check without units whose solution file holds other bytes reports the
drift of that file and has its difference, which may be empty. Every fact
about what is shown is an instance of this run. -/
theorem sync_solutionDrift {more : List (Location × Node)} {existing : Option (List UInt8)}
    (hlib : (smallTree more).node? ["lib"] = none)
    (hlook : Session.outcome (existingBytes? smallSolution) (smallTree more) = .ok existing)
    (hdiffers : existing ≠ some (Text.Utf8.encode (solutionText []))) :
    ∃ run, (sync [] { smallRequest with mode := .ofSwitches true false true } [] :
        Session SyncRun) (smallTree more) = .ok run (smallTree more) ∧
      run.result.files = [⟨smallSolution, .drift, none⟩] ∧
      run.diffs = [fileDiff smallSolution existing (solutionText [])] := by
  have hone : (bringAllUpToDate (.check true) [⟨smallSolution, solutionText [], none⟩] :
      Session (List Outcome)) (smallTree more) =
      .ok [.done ⟨smallSolution, .drift, none⟩
        (some (fileDiff smallSolution existing (solutionText [])))] (smallTree more) := by
    rw [bringAllUpToDate_cons, bringUpToDate_apply, writeIfChanged_apply, hlook]
    simp only [if_neg hdiffers]
    rfl
  -- Without units the solution is the only target.
  have htargets : runTargets smallRequest
      (.missing (smallRequest.layout.managed smallRequest.installRoot) : LibraryScan []).libraries
      (Snapshot.ofEntries []).units = [⟨smallSolution, solutionText [], none⟩] := by
    show [solutionTargetIn [] smallRequest.outputDir []] = _
    rw [solutionTargetIn]
    congr 2
  have hrun : (sync [] { smallRequest with mode := .ofSwitches true false true } [] :
      Session SyncRun) (smallTree more) = _ :=
    sync_in_mode_of_scan _ (scan_smallRequest hlib) (by decide)
  have hmode : WriteMode.ofSwitches true false true = .check true := rfl
  rw [htargets, hmode, hone] at hrun
  exact ⟨_, hrun, rfl, rfl⟩

/-- For a solution file that is missing the diff shows a line that is put
in. -/
theorem sync_showsDrift_iff_missing_solution :
    ∃ run diff, (sync [] { smallRequest with mode := .ofSwitches true false true } [] :
        Session SyncRun) (smallTree []) = .ok run (smallTree []) ∧
      run.result.files = [⟨smallSolution, .drift, none⟩] ∧ run.diffs = [diff] ∧
      ShowsChange "/out/out.sln" "" (solutionText []) diff ∧
      ∃ scan : LibraryScan [],
        Session.outcome (scanLibraries [] smallRequest.installRoot smallRequest.layout)
          (smallTree []) = .ok scan ∧
        List.Forall₂ (DriftAmong (smallTree []) (runTargets smallRequest scan.libraries []))
          (run.result.files.filter (·.status = .drift)) run.diffs := by
  have hlook : Session.outcome (existingBytes? smallSolution) (smallTree []) = .ok none := rfl
  obtain ⟨run, hrun, hfiles, hdiffs⟩ := sync_solutionDrift rfl hlook nofun
  refine ⟨run, _, hrun, hfiles, hdiffs, showsChange_unifiedDiff fun hsame => ?_,
    sync_showsDrift_iff hrun⟩
  have hempty := Text.splitLines_eq_nil_iff.mp (hsame.symm.trans (Text.splitLines_eq_nil_iff.mpr rfl))
  simp [solutionText] at hempty

/-- The solution without units, but the last line does not end. -/
def unendedSolution : String := "\n".intercalate (Solution.lines [])

/-- Without its last line feed the text of the smallest solution is another
one. -/
theorem solutionText_eq_unended : solutionText [] = unendedSolution ++ "\n" := rfl

/-- Both have the same lines. -/
theorem splitLines_unendedSolution :
    Text.splitLines unendedSolution = Text.splitLines (solutionText []) := by
  have hjoined : ['\n'].intercalate
      (((Solution.lines []).dropLast.map String.toList) ++ ["EndGlobal".toList]) =
      ((Solution.lines []).dropLast.map String.toList).flatMap (· ++ ['\n']) ++
        ['\n'].intercalate ["EndGlobal".toList] :=
    intercalate_append _ _ (by simp)
  have hlast : unendedSolution.toList =
      (((Solution.lines []).dropLast.map String.toList).flatMap (· ++ ['\n']) ++
        "EndGloba".toList) ++ ['l'] := by
    rw [unendedSolution, String.toList_intercalate, List.append_assoc]
    exact hjoined
  rw [solutionText_eq_unended, Text.splitLines_append_newline hlast (by decide)]

/-- For a solution file whose last line does not end an empty diff is
printed. -/
theorem sync_drift_not_shown :
    ∃ run, (sync [] { smallRequest with mode := .ofSwitches true false true } [] :
        Session SyncRun)
          (smallTree [(["out", "out.sln"], .file (Text.Utf8.encode unendedSolution))]) =
        .ok run (smallTree [(["out", "out.sln"], .file (Text.Utf8.encode unendedSolution))]) ∧
      run.result.files = [⟨smallSolution, .drift, none⟩] ∧ run.diffs = [""] := by
  have hdiffers : some (Text.Utf8.encode unendedSolution) ≠
      some (Text.Utf8.encode (solutionText [])) := by
    intro heq
    have htext := Text.Utf8.encode_injective (Option.some.inj heq)
    rw [solutionText_eq_unended] at htext
    simpa using congrArg String.length htext
  have hlook : ∀ bytes, Session.outcome (existingBytes? smallSolution)
      (smallTree [(["out", "out.sln"], .file bytes)]) = .ok (some bytes) := fun _ => rfl
  obtain ⟨run, hrun, hfiles, hdiffs⟩ := sync_solutionDrift rfl (hlook _) hdiffers
  refine ⟨run, hrun, hfiles, ?_⟩
  rw [hdiffs, fileDiff, Option.getD_some, Text.Utf8.decodeLossy_encode, String.ofList_toList,
    unifiedDiff_of_sameLines splitLines_unendedSolution]

end IdeProjects
