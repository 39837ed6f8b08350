import IdeProjects.Proofs.Sync.Target
import IdeProjects.Proofs.Unit.FileNames

/-!
# `IdeProjects.Proofs.Sync.Writes`: writing targets one after the other

The targets of a run lie in one directory. Its fate decides the run:

* It cannot be made. Every target fails, and nothing but directories has
  been made (`bringAllUpToDate_of_blocked`).
* It is there or can be made, and no name has a null character. Then the
  run returns, a target is done just when it is `Writable` in the tree
  with the directory, and the tree at the end is that tree with every
  writable target put in, in order: `settleAll`
  (`bringAllUpToDate_of_makes`). If no target is writable, the directory
  may not have been made at all.
* It is there or can be made, and some name has a null character. Then
  the run ends with a fault (`bringAllUpToDate_of_null`).

What makes the second case work is that writing a file takes no
directory away and makes none, so `Writable` means the same in every
tree between the first target and the last (`writable_settle`). The
fate of a target depends neither on its place in the list nor on what
became of the targets before it.
-/

set_option autoImplicit false

namespace IdeProjects

open FileTree

namespace Target

/-- The name of the file. -/
def fileName (target : Target) : String := target.path.name

/-- The file is an entry of the directory `out`, and not the one above
it. -/
def LiesIn (out : Path) (target : Target) : Prop :=
  target.path = out.child target.fileName ∧ target.fileName ≠ ".."

/-- The name has a character that no file name can have. -/
def hasNullName (target : Target) : Bool := target.fileName.toList.contains '\x00'

end Target

namespace Outcome

/-- The outcome is that of a target: it has the path and the unit. -/
def Answers (target : Target) : Outcome → Prop
  | .done file _ => file.path = target.path ∧ file.unit = target.unit
  | .failed failure => failure.path = target.path ∧ failure.unit = target.unit

/-- Whether the file is taken care of. -/
def isDone : Outcome → Bool
  | .done _ _ => true
  | .failed _ => false

end Outcome

/-- Every target has its outcome, and those of which `done` holds are
taken care of. -/
def Accounts (done : Target → Prop) (targets : List Target) (outcomes : List Outcome) : Prop :=
  List.Forall₂ (fun target outcome => outcome.Answers target ∧ (outcome.isDone ↔ done target))
    targets outcomes

namespace Accounts

variable {done : Target → Prop} {targets : List Target} {outcomes : List Outcome}

/-- A target has its outcome. -/
theorem exists_outcome (h : Accounts done targets outcomes) {target : Target}
    (htarget : target ∈ targets) :
    ∃ outcome ∈ outcomes, outcome.Answers target ∧ (outcome.isDone ↔ done target) := by
  unfold Accounts at h
  induction h with
  | nil => cases htarget
  | cons hhead _ ih =>
      rcases List.mem_cons.mp htarget with rfl | hrest
      · exact ⟨_, by simp, hhead⟩
      · obtain ⟨outcome, hmem, hboth⟩ := ih hrest
        exact ⟨outcome, by simp [hmem], hboth⟩

/-- An outcome has its target. -/
theorem exists_target (h : Accounts done targets outcomes) {outcome : Outcome}
    (houtcome : outcome ∈ outcomes) :
    ∃ target ∈ targets, outcome.Answers target ∧ (outcome.isDone ↔ done target) := by
  unfold Accounts at h
  induction h with
  | nil => cases houtcome
  | cons hhead _ ih =>
      rcases List.mem_cons.mp houtcome with rfl | hrest
      · exact ⟨_, by simp, hhead⟩
      · obtain ⟨target, hmem, hboth⟩ := ih hrest
        exact ⟨target, by simp [hmem], hboth⟩

/-- A file that is reported is that of a target that is done. -/
theorem target_of_file (h : Accounts done targets outcomes) {file : FileStatus}
    (hfile : file ∈ outcomes.filterMap Outcome.file?) :
    ∃ target ∈ targets, file.path = target.path ∧ done target := by
  obtain ⟨outcome, hmem, hsome⟩ := List.mem_filterMap.mp hfile
  obtain ⟨target, htarget, hanswers, hdone⟩ := h.exists_target hmem
  cases outcome with
  | failed failure => cases hsome
  | done file' diff =>
      cases hsome
      exact ⟨target, htarget, hanswers.1, hdone.mp rfl⟩

/-- A failure that is reported is that of a target that is not done. -/
theorem target_of_failure (h : Accounts done targets outcomes) {failure : WriteFailure}
    (hfailure : failure ∈ outcomes.filterMap Outcome.failure?) :
    ∃ target ∈ targets, failure.path = target.path ∧ ¬ done target := by
  obtain ⟨outcome, hmem, hsome⟩ := List.mem_filterMap.mp hfailure
  obtain ⟨target, htarget, hanswers, hdone⟩ := h.exists_target hmem
  cases outcome with
  | done file diff => cases hsome
  | failed failure' =>
      cases hsome
      exact ⟨target, htarget, hanswers.1, fun hyes => Bool.false_ne_true (hdone.mpr hyes)⟩

/-- A target that is done is reported as a file. -/
theorem file_of_target (h : Accounts done targets outcomes) {target : Target}
    (htarget : target ∈ targets) (hyes : done target) :
    ∃ file ∈ outcomes.filterMap Outcome.file?, file.path = target.path := by
  obtain ⟨outcome, hmem, hanswers, hdone⟩ := h.exists_outcome htarget
  cases outcome with
  | failed failure => exact absurd (hdone.mpr hyes) Bool.false_ne_true
  | done file diff => exact ⟨file, List.mem_filterMap.mpr ⟨_, hmem, rfl⟩, hanswers.1⟩

/-- A target that is not done is reported as a failure. -/
theorem failure_of_target (h : Accounts done targets outcomes) {target : Target}
    (htarget : target ∈ targets) (hno : ¬ done target) :
    ∃ failure ∈ outcomes.filterMap Outcome.failure?, failure.path = target.path := by
  obtain ⟨outcome, hmem, hanswers, hdone⟩ := h.exists_outcome htarget
  cases outcome with
  | done file diff => exact absurd (hdone.mp rfl) hno
  | failed failure => exact ⟨failure, List.mem_filterMap.mpr ⟨_, hmem, rfl⟩, hanswers.1⟩

/-- The paths that are reported as failed are those of the targets that are
not done, one for each and in their order. -/
theorem failure_paths [DecidablePred done] (h : Accounts done targets outcomes) :
    (outcomes.filterMap Outcome.failure?).map (·.path) =
      (targets.filter fun target => ¬ done target).map (·.path) := by
  unfold Accounts at h
  induction h with
  | nil => rfl
  | @cons target outcome _ _ hhead _ ih =>
      obtain ⟨hanswers, hdone⟩ := hhead
      cases outcome with
      | done file diff =>
          have hyes : done target := hdone.mp rfl
          have hsilent : (Outcome.done file diff).failure? = none := rfl
          rw [List.filterMap_cons_none hsilent, List.filter_cons_of_neg (by simpa using hyes), ih]
      | failed failure =>
          have hno : ¬ done target := fun hyes => Bool.false_ne_true (hdone.mpr hyes)
          have htold : (Outcome.failed failure).failure? = some failure := rfl
          rw [List.filterMap_cons_some htold, List.filter_cons_of_pos (by simpa using hno),
            List.map_cons, List.map_cons, hanswers.1, ih]

end Accounts

/-! ### The tree that writes leave -/

/-- The tree after a target was written into the directory at `d`. -/
def settle (out : Path) (d : Location) (t : FileTree) (target : Target) : FileTree :=
  if Writable t out d target.fileName then
    t.put (d ++ [target.fileName]) (.file (Text.Utf8.encode target.content))
  else t

/-- The tree after targets were written into the directory at `d`, one
after the other. -/
def settleAll (out : Path) (d : Location) (t : FileTree) (targets : List Target) : FileTree :=
  targets.foldl (settle out d) t

section

variable {out : Path} {t t' : FileTree} {d : Location}

/-- What stands somewhere after a target was written. -/
theorem node?_settle (out : Path) (d : Location) (t : FileTree) (target : Target)
    (q : Location) :
    (settle out d t target).node? q =
      if Writable t out d target.fileName ∧ q = d ++ [target.fileName] then
        some (.file (Text.Utf8.encode target.content))
      else t.node? q := by
  unfold settle
  by_cases hw : Writable t out d target.fileName
  · rw [if_pos hw, node?_put t (by simp)]
    simp [hw]
  · simp [hw]

/-- A write moves no directory. -/
theorem settle_directory (out : Path) (d : Location) (t : FileTree) (target : Target)
    (q : Location) :
    (settle out d t target).node? q = some .directory ↔ t.node? q = some .directory := by
  rw [node?_settle]
  split
  · rename_i h
    constructor
    · intro hfile
      cases hfile
    · intro hdir
      exact absurd (h.2 ▸ hdir) h.1.2
  · exact Iff.rfl

/-- Writing a target leaves every directory where it is. -/
theorem keepsDirectories_settle (out : Path) (d : Location) (t : FileTree) (target : Target) :
    KeepsDirectories t (settle out d t target) where
  base_eq := by
    unfold settle
    split <;> rfl
  directory q hq := (settle_directory out d t target q).mpr hq

/-- Writing one target changes nothing about which targets are
writable. -/
theorem writable_settle (target : Target) (n : String) :
    Writable (settle out d t target) out d n ↔ Writable t out d n := by
  unfold Writable
  rw [ne_eq, ne_eq, settle_directory]

/-- The output directory is where it was after a target was written. -/
theorem locate_settle (target : Target) (hd : t.locate out = .ok (.node d .directory)) :
    (settle out d t target).locate out = .ok (.node d .directory) :=
  locate_of_keepsDirectories (keepsDirectories_settle out d t target) hd

/-- No targets leave the tree as it is. -/
@[simp] theorem settleAll_nil (out : Path) (d : Location) (t : FileTree) :
    settleAll out d t [] = t := rfl

/-- The first target is written before the others. -/
@[simp] theorem settleAll_cons (out : Path) (d : Location) (t : FileTree) (target : Target)
    (rest : List Target) :
    settleAll out d t (target :: rest) = settleAll out d (settle out d t target) rest := rfl

/-- Targets behind others are written into the tree that those have left. -/
theorem settleAll_append (out : Path) (d : Location) (t : FileTree) (before after : List Target) :
    settleAll out d t (before ++ after) =
      settleAll out d (settleAll out d t before) after :=
  List.foldl_append

/-- Which targets are writable is settled before the first is written: targets
are files, and only a directory is in the way of one. -/
theorem writable_settleAll (targets : List Target) (n : String) :
    Writable (settleAll out d t targets) out d n ↔ Writable t out d n := by
  induction targets generalizing t with
  | nil => exact Iff.rfl
  | cons target rest ih => rw [settleAll_cons, ih, writable_settle]

/-- The output directory is where it was after all targets were written. -/
theorem locate_settleAll (targets : List Target)
    (hd : t.locate out = .ok (.node d .directory)) :
    (settleAll out d t targets).locate out = .ok (.node d .directory) := by
  induction targets generalizing t with
  | nil => exact hd
  | cons target rest ih => exact ih (locate_settle target hd)

/-- Targets that are not writable leave no trace, so a run is described by the
writable ones. Settling a target never changes which others are writable. -/
theorem settleAll_filter (targets : List Target) :
    settleAll out d t (targets.filter fun target => decide (Writable t out d target.fileName)) =
      settleAll out d t targets := by
  -- The filter looks at `t` all the time, the fold at the trees on the
  -- way. They agree on what is writable, which is all that counts.
  suffices h : ∀ t₀ : FileTree, (∀ n, Writable t₀ out d n ↔ Writable t out d n) →
      settleAll out d t₀ (targets.filter fun target => decide (Writable t out d target.fileName)) =
        settleAll out d t₀ targets from h t fun _ => Iff.rfl
  induction targets with
  | nil => exact fun _ _ => rfl
  | cons target rest ih =>
      intro t₀ hsame
      have hsame' : ∀ n, Writable (settle out d t₀ target) out d n ↔ Writable t out d n :=
        fun n => (writable_settle target n).trans (hsame n)
      by_cases hw : Writable t out d target.fileName
      · rw [List.filter_cons_of_pos (by simpa using hw), settleAll_cons, settleAll_cons]
        exact ih _ hsame'
      · have hnone : settle out d t₀ target = t₀ := if_neg fun h => hw ((hsame _).mp h)
        rw [List.filter_cons_of_neg (by simpa using hw), settleAll_cons, hnone]
        exact ih _ hsame

/-- Without a writable target nothing is written. -/
theorem settleAll_of_not_writable {targets : List Target}
    (h : ∀ target ∈ targets, ¬ Writable t out d target.fileName) :
    settleAll out d t targets = t := by
  rw [← settleAll_filter, List.filter_eq_nil_iff.mpr (by simpa using h), settleAll_nil]

/-- A place that no writable target names keeps what it had. -/
theorem node?_settleAll_of_ne {targets : List Target} {q : Location}
    (h : ∀ target ∈ targets, Writable t out d target.fileName → q ≠ d ++ [target.fileName]) :
    (settleAll out d t targets).node? q = t.node? q := by
  induction targets generalizing t with
  | nil => rfl
  | cons target rest ih =>
      rw [settleAll_cons, ih, node?_settle, if_neg]
      · intro hboth
        exact h target (by simp) hboth.1 hboth.2
      · intro other hother hw
        exact h other (by simp [hother]) ((writable_settle target _).mp hw)

/-- The last of the writable targets of one name decides what the file
holds. -/
theorem node?_settleAll_last {target : Target} {before after : List Target}
    (hlast : ∀ other ∈ after, other.fileName ≠ target.fileName)
    (hw : Writable t out d target.fileName) :
    (settleAll out d t (before ++ target :: after)).node? (d ++ [target.fileName]) =
      some (.file (Text.Utf8.encode target.content)) := by
  -- The targets after it leave its place alone, and those before it do
  -- not count because it puts its own bytes there.
  rw [settleAll_append, settleAll_cons, node?_settleAll_of_ne, node?_settle, if_pos]
  · exact ⟨(writable_settleAll before _).mpr hw, rfl⟩
  · intro other hother _ heq
    exact hlast other hother (by simpa using heq.symm)

/-- Where a writable target lies, the text of one of its name is left. -/
theorem node?_settleAll_of_mem {targets : List Target} {target : Target}
    (htarget : target ∈ targets) (hw : Writable t out d target.fileName) :
    ∃ last ∈ targets, last.fileName = target.fileName ∧
      (settleAll out d t targets).node? (d ++ [target.fileName]) =
        some (.file (Text.Utf8.encode last.content)) := by
  obtain ⟨before, last, after, rfl, hname, hlater⟩ :=
    exists_last_of_mem (p := fun other => other.fileName = target.fileName) htarget (by simp)
  rw [decide_eq_true_eq] at hname
  refine ⟨last, by simp, hname, ?_⟩
  rw [← hname] at hw ⊢
  exact node?_settleAll_last (by simpa [hname] using hlater) hw

/-- A written file can be read, and the last of the targets of one name
decides what it holds. -/
theorem read_settleAll_last {target : Target} {before after : List Target}
    (hin : target.LiesIn out) (hnull : target.hasNullName = false)
    (hd : t.locate out = .ok (.node d .directory))
    (hlast : ∀ other ∈ after, other.fileName ≠ target.fileName)
    (hw : Writable t out d target.fileName) :
    (settleAll out d t (before ++ target :: after)).read target.path =
      .ok (Text.Utf8.encode target.content) := by
  rw [FileTree.read, hin.1, locate_child (locate_settleAll _ hd) hin.2 hnull, if_pos hw.1,
    node?_settleAll_last hlast hw]

end

/-! ### Runs over a list -/

/-- A run over targets takes the first one, and the others in the tree that it
has left. -/
theorem bringAllUpToDate_cons (mode : WriteMode) (target : Target) (rest : List Target)
    (t : FileTree) :
    (bringAllUpToDate mode (target :: rest) : Session (List Outcome)) t =
      match (target.bringUpToDate mode : Session Outcome) t with
      | .ok outcome t' =>
        match (bringAllUpToDate mode rest : Session (List Outcome)) t' with
        | .ok outcomes t'' => .ok (outcome :: outcomes) t''
        | .error fault t'' => .error fault t''
      | .error fault t' => .error fault t' := by
  rw [bringAllUpToDate, Session.bind_apply]
  cases (target.bringUpToDate mode : Session Outcome) t with
  | error fault t' => rfl
  | ok outcome t' =>
      dsimp only
      rw [Session.bind_apply]
      cases (bringAllUpToDate mode rest : Session (List Outcome)) t' <;> rfl

/-- A run over targets that returns has run the first of them and then
the others. -/
theorem bringAllUpToDate_cons_eq_ok {mode : WriteMode} {target : Target} {rest : List Target}
    {t t' : FileTree} {outcomes : List Outcome}
    (h : (bringAllUpToDate mode (target :: rest) : Session (List Outcome)) t = .ok outcomes t') :
    ∃ outcome others t₁, (target.bringUpToDate mode : Session Outcome) t = .ok outcome t₁ ∧
      (bringAllUpToDate mode rest : Session (List Outcome)) t₁ = .ok others t' ∧
      outcomes = outcome :: others := by
  rw [bringAllUpToDate_cons] at h
  cases hself : (target.bringUpToDate mode : Session Outcome) t with
  | error fault t₁ =>
      rw [hself] at h
      cases h
  | ok outcome t₁ =>
      rw [hself] at h
      dsimp only at h
      cases hrest : (bringAllUpToDate mode rest : Session (List Outcome)) t₁ with
      | error fault t₂ =>
          rw [hrest] at h
          cases h
      | ok others t₂ =>
          rw [hrest] at h
          cases h
          exact ⟨outcome, others, t₁, rfl, hrest, rfl⟩

/-- A list of targets is run through in two parts, the second on the tree that
the first one left. What the first part reports comes first. -/
theorem bringAllUpToDate_append (mode : WriteMode) (before after : List Target)
    (t : FileTree) :
    (bringAllUpToDate mode (before ++ after) : Session (List Outcome)) t =
      match (bringAllUpToDate mode before : Session (List Outcome)) t with
      | .ok outcomes t' =>
        match (bringAllUpToDate mode after : Session (List Outcome)) t' with
        | .ok more t'' => .ok (outcomes ++ more) t''
        | .error fault t'' => .error fault t''
      | .error fault t' => .error fault t' := by
  -- On the first part, for every tree it may start from.
  induction before generalizing t with
  | nil =>
      show (bringAllUpToDate mode after : Session (List Outcome)) t = _
      rw [bringAllUpToDate, Session.pure_apply]
      dsimp only
      cases (bringAllUpToDate mode after : Session (List Outcome)) t <;> rfl
  | cons target rest ih =>
      rw [List.cons_append, bringAllUpToDate_cons, bringAllUpToDate_cons]
      cases (target.bringUpToDate mode : Session Outcome) t with
      | error fault t' => rfl
      | ok outcome t' =>
          dsimp only
          rw [ih]
          cases (bringAllUpToDate mode rest : Session (List Outcome)) t' with
          | error fault t'' => rfl
          | ok outcomes t'' =>
              dsimp only
              cases (bringAllUpToDate mode after : Session (List Outcome)) t'' <;> rfl

section

variable {out : Path} {t t' : FileTree} {d : Location}

/-- One target of a run, in the words of `settle`: it is done just when
it is writable, and the tree is the settled one, with the directory, or
still the one before it. -/
theorem bringUpToDate_of_makes {target : Target} (hin : target.LiesIn out)
    (hnull : target.hasNullName = false) (hmakes : Makes out t t')
    (hd : t'.locate out = .ok (.node d .directory)) :
    ∃ outcome t'', (target.bringUpToDate .write : Session Outcome) t = .ok outcome t'' ∧
      outcome.Answers target ∧ (outcome.isDone ↔ Writable t' out d target.fileName) ∧
      Makes out t'' (settle out d t' target) ∧
      (t'' = settle out d t' target ∨
        (t'' = t ∧ ¬ Writable t' out d target.fileName)) := by
  have hthere : ∀ t₀ : FileTree, t₀.locate out = .ok (.node d .directory) → Makes out t₀ t₀ :=
    fun t₀ h => Storage.makeDirectories_of_directory h
  -- A target that is not writable may fail before its directory is made,
  -- which is why `t` may be left as it was.
  by_cases hw : Writable t' out d target.fileName
  · obtain ⟨status, hrun⟩ := bringUpToDate_of_writable hin.1 hmakes hd hin.2 hnull hw
    have hsettle : settle out d t' target =
        t'.put (d ++ [target.fileName]) (.file (Text.Utf8.encode target.content)) := if_pos hw
    rw [← hsettle] at hrun
    exact ⟨_, _, hrun, ⟨rfl, rfl⟩, by simp [Outcome.isDone, hw],
      hthere _ (locate_settle target hd), Or.inl rfl⟩
  · obtain ⟨message, t'', hrun, hleft⟩ :=
      bringUpToDate_of_not_writable hin.1 hmakes hd hin.2 hnull hw
    have hsettle : settle out d t' target = t' := if_neg hw
    rw [hsettle]
    refine ⟨_, t'', hrun, ⟨rfl, rfl⟩, by simp [Outcome.isDone, hw], ?_, ?_⟩
    · rcases hleft with rfl | rfl
      · exact hthere _ hd
      · exact hmakes
    · rcases hleft with rfl | rfl
      · exact Or.inl rfl
      · exact Or.inr ⟨rfl, hw⟩

/-- The run over targets whose directory is there or can be made, when no
name has a null character. -/
theorem bringAllUpToDate_of_makes {targets : List Target}
    (hin : ∀ target ∈ targets, target.LiesIn out)
    (hnull : ∀ target ∈ targets, target.hasNullName = false) (hmakes : Makes out t t')
    (hd : t'.locate out = .ok (.node d .directory)) :
    ∃ outcomes t'', (bringAllUpToDate .write targets : Session (List Outcome)) t =
        .ok outcomes t'' ∧
      Accounts (fun target => Writable t' out d target.fileName) targets outcomes ∧
      (t'' = settleAll out d t' targets ∨
        (t'' = t ∧ ∀ target ∈ targets, ¬ Writable t' out d target.fileName)) := by
  -- The tree to start from and the one with the directory move on
  -- together: they are one as soon as a target has made the directory.
  induction targets generalizing t t' with
  | nil => exact ⟨[], t, rfl, .nil, Or.inr ⟨rfl, by simp⟩⟩
  | cons target rest ih =>
      obtain ⟨outcome, t₁, hrun, hanswers, hdone, hmakes₁, htree₁⟩ :=
        bringUpToDate_of_makes (hin target (by simp)) (hnull target (by simp)) hmakes hd
      obtain ⟨outcomes, t₂, hrest, hall, htree₂⟩ :=
        ih (fun other hother => hin other (by simp [hother]))
          (fun other hother => hnull other (by simp [hother])) hmakes₁ (locate_settle target hd)
      simp only [writable_settle] at hall htree₂
      refine ⟨outcome :: outcomes, t₂, ?_, .cons ⟨hanswers, hdone⟩ hall, ?_⟩
      · rw [bringAllUpToDate_cons, hrun]
        simp [hrest]
      · rcases htree₂ with rfl | ⟨rfl, hnone⟩
        · exact Or.inl rfl
        · rcases htree₁ with rfl | ⟨rfl, hw⟩
          · -- The directory is there, and none of the rest was written.
            left
            rw [settleAll_cons, settleAll_of_not_writable]
            simpa only [writable_settle] using hnone
          · exact Or.inr ⟨rfl, by simpa using ⟨hw, hnone⟩⟩

/-- A name with a null character ends the run where the directory is
there or can be made. -/
theorem bringAllUpToDate_of_null {targets : List Target}
    (hin : ∀ target ∈ targets, target.LiesIn out)
    (hnull : ∃ target ∈ targets, target.hasNullName = true) (hmakes : Makes out t t')
    (hd : t'.locate out = .ok (.node d .directory)) :
    ∃ t'', (bringAllUpToDate .write targets : Session (List Outcome)) t =
      .error .nullCharacter t'' := by
  induction targets generalizing t t' with
  | nil => simp at hnull
  | cons target rest ih =>
      -- The first target may be the one; if not, it leaves a tree with the
      -- directory for the others.
      by_cases hself : target.hasNullName = true
      · have hrun := bringUpToDate_of_null (hin target (by simp)).1 hmakes hself
        exact ⟨t', by rw [bringAllUpToDate_cons, hrun]⟩
      · obtain ⟨outcome, t₁, hrun, _, _, hmakes₁, _⟩ :=
          bringUpToDate_of_makes (hin target (by simp)) (by simpa using hself) hmakes hd
        have hrest : ∃ other ∈ rest, other.hasNullName = true := by
          simpa [hself] using hnull
        obtain ⟨t₂, hrun₂⟩ :=
          ih (fun other hother => hin other (by simp [hother])) hrest hmakes₁
            (locate_settle target hd)
        exact ⟨t₂, by rw [bringAllUpToDate_cons, hrun]; simp [hrun₂]⟩

/-- The run over targets whose directory cannot be made: all of them fail, and
the tree is one of two. By induction on the targets, each of which tries to
make the directory again. -/
theorem bringAllUpToDate_of_blocked {targets : List Target} {fault : Fault}
    (hin : ∀ target ∈ targets, target.LiesIn out) (hout : out.hasNull = false)
    (hblocked : (Storage.makeDirectories out : Session Unit) t = .error fault t') :
    ∃ outcomes t'', (bringAllUpToDate .write targets : Session (List Outcome)) t =
        .ok outcomes t'' ∧
      Accounts (fun _ => False) targets outcomes ∧
      (t'' = t' ∨ t'' = t) := by
  induction targets generalizing t t' fault with
  | nil => exact ⟨[], t, rfl, .nil, Or.inr rfl⟩
  | cons target rest ih =>
      obtain ⟨message, t₁, hrun, hleft⟩ :=
        bringUpToDate_of_blocked (hin target (by simp)).1 hout hblocked
      -- Whichever tree is left, the directory cannot be made there, and
      -- trying leads to no third tree.
      have hagain : ∃ fault', (Storage.makeDirectories out : Session Unit) t₁ =
          .error fault' t' := by
        rcases hleft with rfl | rfl
        · exact Storage.makeDirectories_again_of_error hblocked
        · exact ⟨fault, hblocked⟩
      obtain ⟨fault', hblocked'⟩ := hagain
      obtain ⟨outcomes, t₂, hrest, hall, hleft₂⟩ :=
        ih (fun other hother => hin other (by simp [hother])) hblocked'
      refine ⟨.failed ⟨target.path, message, target.unit⟩ :: outcomes, t₂, ?_,
        .cons ⟨⟨rfl, rfl⟩, by simp [Outcome.isDone]⟩ hall, ?_⟩
      · rw [bringAllUpToDate_cons, hrun]
        simp [hrest]
      · rcases hleft₂ with rfl | rfl
        · exact Or.inl rfl
        · exact hleft

/-- How a run over targets that returns has gone: into a directory, or
nowhere because the directory cannot be made. -/
theorem bringAllUpToDate_eq_ok {targets : List Target} {outcomes : List Outcome}
    (hin : ∀ target ∈ targets, target.LiesIn out) (hout : out.hasNull = false)
    (hrun : (bringAllUpToDate .write targets : Session (List Outcome)) t = .ok outcomes t') :
    (∃ t₁ d, Makes out t t₁ ∧ t₁.locate out = .ok (.node d .directory) ∧
      (∀ target ∈ targets, target.hasNullName = false) ∧
      Accounts (fun target => Writable t₁ out d target.fileName) targets outcomes ∧
      (t' = settleAll out d t₁ targets ∨
        (t' = t ∧ ∀ target ∈ targets, ¬ Writable t₁ out d target.fileName))) ∨
    (∃ fault t₁, (Storage.makeDirectories out : Session Unit) t = .error fault t₁ ∧
      Accounts (fun _ => False) targets outcomes ∧ (t' = t₁ ∨ t' = t)) := by
  cases hmake : (Storage.makeDirectories out : Session Unit) t with
  | ok _ t₁ =>
      obtain ⟨d, hd⟩ := Storage.locate_of_makeDirectories hmake
      -- A name with a null character would have ended the run.
      by_cases hnull : ∃ target ∈ targets, target.hasNullName = true
      · obtain ⟨t₂, hnullrun⟩ := bringAllUpToDate_of_null hin hnull hmake hd
        rw [hnullrun] at hrun
        cases hrun
      · have hnull' : ∀ target ∈ targets, target.hasNullName = false := by
          simpa using hnull
        obtain ⟨outcomes', t₂, hrun', hall, htree⟩ :=
          bringAllUpToDate_of_makes hin hnull' hmake hd
        rw [hrun'] at hrun
        cases hrun
        exact Or.inl ⟨t₁, d, hmake, hd, hnull', hall, htree⟩
  | error fault t₁ =>
      obtain ⟨outcomes', t₂, hrun', hall, htree⟩ :=
        bringAllUpToDate_of_blocked hin hout hmake
      rw [hrun'] at hrun
      cases hrun
      exact Or.inr ⟨fault, t₁, rfl, hall, htree⟩

/-- When a run over targets returns: all names can be those of files, or
there is no directory to look for them in. -/
theorem exists_bringAllUpToDate_iff {targets : List Target}
    (hin : ∀ target ∈ targets, target.LiesIn out) (hout : out.hasNull = false) :
    (∃ outcomes t', (bringAllUpToDate .write targets : Session (List Outcome)) t =
        .ok outcomes t') ↔
      (∀ target ∈ targets, target.hasNullName = false) ∨ ¬ ∃ t₁, Makes out t t₁ := by
  constructor
  · rintro ⟨outcomes, t', hrun⟩
    rcases bringAllUpToDate_eq_ok hin hout hrun with ⟨_, _, _, _, hnull, _⟩ | ⟨_, _, hblocked, _⟩
    · exact Or.inl hnull
    · right
      rintro ⟨t₁, hmakes⟩
      rw [Makes, hblocked] at hmakes
      cases hmakes
  · intro h
    cases hmake : (Storage.makeDirectories out : Session Unit) t with
    | ok _ t₁ =>
        obtain ⟨d, hd⟩ := Storage.locate_of_makeDirectories hmake
        have hnull := h.resolve_right fun hnone => hnone ⟨t₁, hmake⟩
        obtain ⟨outcomes, t', hrun, _⟩ := bringAllUpToDate_of_makes hin hnull hmake hd
        exact ⟨outcomes, t', hrun⟩
    | error fault t₁ =>
        obtain ⟨outcomes, t', hrun, _⟩ := bringAllUpToDate_of_blocked hin hout hmake
        exact ⟨outcomes, t', hrun⟩

/-- Nothing but a null character ends a run over targets. -/
theorem bringAllUpToDate_error {targets : List Target} {fault : Fault}
    (hin : ∀ target ∈ targets, target.LiesIn out) (hout : out.hasNull = false)
    (hrun : (bringAllUpToDate .write targets : Session (List Outcome)) t = .error fault t') :
    fault = .nullCharacter := by
  have hnone : ¬ ∃ outcomes t', (bringAllUpToDate .write targets : Session (List Outcome)) t =
      .ok outcomes t' := by
    rintro ⟨outcomes, t'', hok⟩
    rw [hrun] at hok
    cases hok
  rw [exists_bringAllUpToDate_iff hin hout, not_or, not_not] at hnone
  obtain ⟨hnull, t₁, hmakes⟩ := hnone
  obtain ⟨d, hd⟩ := Storage.locate_of_makeDirectories hmakes
  obtain ⟨t₂, hnullrun⟩ := bringAllUpToDate_of_null hin (by simpa using hnull) hmakes hd
  rw [hnullrun] at hrun
  cases hrun
  rfl

end

end IdeProjects
