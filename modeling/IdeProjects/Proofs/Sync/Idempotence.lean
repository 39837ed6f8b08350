import IdeProjects.Proofs.Sync.Repeat

/-!
# `IdeProjects.Proofs.Sync.Idempotence`: what a second run leaves

A run that has returned may have failed for some targets, and units of
one name may have overwritten one another on the way. Run again with the
same libraries, it goes through the same writes, fails for the same
targets and ends in the tree it has started from: `sync_idempotent`.

The trees in between can differ from that tree, since the first unit of a
name puts its own text back before the last one does. So the fixed point
is one of the whole list and not of each step. Two facts about `settleAll`
carry it:

* `settleAll_settle_of_later`: a write counts for nothing if a later
  target has the same file and something stands in its place already.
* `settleAll_of_holds`: a tree that holds the last text of every writable
  name is left as it is.

What failed fails again because neither a written file nor a made
directory changes which targets are writable, and because a directory
that cannot be made is in the way a second time
(`Storage.makeDirectories_again_of_error`).
-/

set_option autoImplicit false

namespace IdeProjects

open FileTree

section

variable {out : Path} {t t' : FileTree} {d : Location} {targets : List Target}
  {outcomes : List Outcome}

/-! ### Writing into a settled directory -/

/-- Writing a target takes nothing away. -/
theorem isSome_node?_settle (target : Target) {q : Location} (h : (t.node? q).isSome) :
    ((settle out d t target).node? q).isSome := by
  rw [node?_settle]
  split
  · rfl
  · exact h

/-- Of two targets of one file the second counts. -/
theorem settle_settle_of_eq {target other : Target} (h : other.fileName = target.fileName) :
    settle out d (settle out d t target) other = settle out d t other := by
  by_cases hw : Writable t out d target.fileName
  · have hw' : Writable (settle out d t target) out d other.fileName :=
      (writable_settle target _).mpr (h ▸ hw)
    rw [settle, if_pos hw', settle, if_pos hw, settle, if_pos (h ▸ hw), h, put_put]
  · have hnone : settle out d t target = t := if_neg hw
    rw [hnone]

/-- Targets of two files can be written in either order if the first file
is there already. -/
theorem settle_settle_comm {target other : Target} (h : other.fileName ≠ target.fileName)
    (hthere : (t.node? (d ++ [target.fileName])).isSome) :
    settle out d (settle out d t target) other = settle out d (settle out d t other) target := by
  have hfirst : Writable (settle out d t target) out d other.fileName ↔
      Writable t out d other.fileName := writable_settle target _
  have hsecond : Writable (settle out d t other) out d target.fileName ↔
      Writable t out d target.fileName := writable_settle other _
  have hplace : d ++ [target.fileName] ≠ d ++ [other.fileName] := by simpa using Ne.symm h
  by_cases hw : Writable t out d target.fileName
  · by_cases hw' : Writable t out d other.fileName
    · rw [settle, if_pos (hfirst.mpr hw'), settle, if_pos hw, settle, if_pos (hsecond.mpr hw),
        settle, if_pos hw', put_comm (by simp) hplace _ _ hthere]
    · have hnone : settle out d t other = t := if_neg hw'
      rw [hnone, settle, if_neg (mt hfirst.mp hw')]
  · have hnone : settle out d t target = t := if_neg hw
    rw [hnone, settle.eq_1 out d (settle out d t other) target, if_neg (mt hsecond.mp hw)]

/-- A write counts for nothing if a later target has the same file. That
something stands in its place already keeps the order of the tree. -/
theorem settleAll_settle_of_later {target : Target} {rest : List Target}
    (hthere : (t.node? (d ++ [target.fileName])).isSome)
    (hlater : ∃ other ∈ rest, other.fileName = target.fileName) :
    settleAll out d (settle out d t target) rest = settleAll out d t rest := by
  -- The target is moved along the list up to the one of its file.
  induction rest generalizing t with
  | nil => simp at hlater
  | cons other more ih =>
      rw [settleAll_cons, settleAll_cons]
      by_cases hname : other.fileName = target.fileName
      · rw [settle_settle_of_eq hname]
      · have hmore : ∃ later ∈ more, later.fileName = target.fileName := by
          simpa [hname] using hlater
        rw [settle_settle_comm hname hthere]
        exact ih (isSome_node?_settle other hthere) hmore

/-- A tree holds targets: in the place of every writable one stands the
text of the last target of its name. -/
def Holds (out : Path) (d : Location) (t : FileTree) (targets : List Target) : Prop :=
  ∀ before target after, targets = before ++ target :: after →
    (∀ other ∈ after, other.fileName ≠ target.fileName) →
    Writable t out d target.fileName →
    t.node? (d ++ [target.fileName]) = some (.file (Text.Utf8.encode target.content))

/-- What holds all targets holds all but the first. -/
theorem Holds.tail {target : Target} {rest : List Target} (h : Holds out d t (target :: rest)) :
    Holds out d t rest :=
  fun before other after hsplit => h (target :: before) other after (by simp [hsplit])

/-- A tree that holds the targets is left as it is. By induction on the
targets: one that a later one overwrites is no concern, and the last of its
name is there already. -/
theorem settleAll_of_holds (h : Holds out d t targets) : settleAll out d t targets = t := by
  induction targets with
  | nil => rfl
  | cons target rest ih =>
      rw [settleAll_cons]
      by_cases hw : Writable t out d target.fileName
      · by_cases hlater : ∃ other ∈ rest, other.fileName = target.fileName
        · -- The last target of the name stands in the place.
          obtain ⟨other, hother, hname⟩ := hlater
          obtain ⟨before, last, after, hsplit, hself, hnone⟩ :=
            exists_last_of_mem (p := fun other => other.fileName = target.fileName) hother
              (by simpa using hname)
          rw [decide_eq_true_eq] at hself
          have hnode := h.tail before last after hsplit (by simpa [hself] using hnone)
            (hself ▸ hw)
          rw [hself] at hnode
          rw [settleAll_settle_of_later (by rw [hnode]; rfl) ⟨other, hother, hname⟩]
          exact ih h.tail
        · have hnode := h [] target rest rfl (by simpa using hlater) hw
          rw [settle, if_pos hw, put_of_node? (by simp) hnode]
          exact ih h.tail
      · rw [settle, if_neg hw]
        exact ih h.tail

/-- After all targets were written they are held. -/
theorem holds_settleAll (out : Path) (d : Location) (t : FileTree) (targets : List Target) :
    Holds out d (settleAll out d t targets) targets := by
  rintro before target after rfl hlast hw
  exact node?_settleAll_last hlast ((writable_settleAll _ _).mp hw)

/-! ### A run over targets, again -/

/-- A failure names the path and the unit of its target. -/
theorem Outcome.Answers.failure? {target : Target} {outcome : Outcome}
    (h : outcome.Answers target) :
    outcome.failure?.map (fun f => (f.path, f.unit)) =
      if outcome.isDone then none else some (target.path, target.unit) := by
  cases outcome with
  | done file diff => rfl
  | failed failure =>
      obtain ⟨hpath, hunit⟩ := h
      simp [Outcome.failure?, Outcome.isDone, hpath, hunit]

/-- Two accounts of one list of targets in which the same targets are done
report the same failures. -/
theorem Accounts.failures_congr {done done' : Target → Prop} {outcomes' : List Outcome}
    (h : Accounts done targets outcomes) (h' : Accounts done' targets outcomes')
    (hiff : ∀ target ∈ targets, done target ↔ done' target) :
    (outcomes'.filterMap Outcome.failure?).map (fun f => (f.path, f.unit)) =
      (outcomes.filterMap Outcome.failure?).map (fun f => (f.path, f.unit)) := by
  rw [List.map_filterMap, List.map_filterMap]
  unfold Accounts at h h'
  induction h generalizing outcomes' with
  | nil =>
      cases h'
      rfl
  | @cons target outcome rest others hhead _ ih =>
      cases h' with
      | @cons _ outcome' _ others' hhead' hrest' =>
          have htail := ih hrest' fun other hother => hiff other (by simp [hother])
          have hdone : outcome'.isDone = outcome.isDone := by
            rw [Bool.eq_iff_iff, hhead.2, hhead'.2, hiff target (by simp)]
          rw [List.filterMap_cons, List.filterMap_cons, htail, hhead.1.failure?,
            hhead'.1.failure?, hdone]

/-- A run over targets that has returned returns again, with the same
failures, and leaves the tree it has started from. -/
theorem bringAllUpToDate_again (hin : ∀ target ∈ targets, target.LiesIn out)
    (hout : out.hasNull = false)
    (hrun : (bringAllUpToDate .write targets : Session (List Outcome)) t = .ok outcomes t') :
    ∃ again, (bringAllUpToDate .write targets : Session (List Outcome)) t' = .ok again t' ∧
      (again.filterMap Outcome.failure?).map (fun f => (f.path, f.unit)) =
        (outcomes.filterMap Outcome.failure?).map (fun f => (f.path, f.unit)) := by
  rcases bringAllUpToDate_eq_ok hin hout hrun with
    ⟨t₁, d, hmakes, hd, hnull, hall, rfl | ⟨rfl, _⟩⟩ |
    ⟨fault, t₁, hblocked, hall, rfl | rfl⟩
  · -- The directory is there now, and holds the targets.
    have hd' := locate_settleAll targets hd
    obtain ⟨again, t₂, hagain, hall', htree⟩ := bringAllUpToDate_of_makes hin hnull
      (Storage.makeDirectories_of_directory hd') hd'
    have hsame : t₂ = settleAll out d t₁ targets := by
      rcases htree with rfl | ⟨rfl, _⟩
      · exact settleAll_of_holds (holds_settleAll out d t₁ targets)
      · rfl
    refine ⟨again, hsame ▸ hagain, hall.failures_congr hall' fun target _ => ?_⟩
    exact (writable_settleAll targets _).symm
  · -- Nothing was done, so it is the same run.
    exact ⟨outcomes, hrun, rfl⟩
  · obtain ⟨fault', hblocked'⟩ := Storage.makeDirectories_again_of_error hblocked
    obtain ⟨again, t₂, hagain, hall', htree⟩ := bringAllUpToDate_of_blocked hin hout hblocked'
    have hsame : t₂ = t' := htree.elim id id
    exact ⟨again, hsame ▸ hagain, hall.failures_congr hall' fun _ _ => Iff.rfl⟩
  · exact ⟨outcomes, hrun, rfl⟩

end

/-! ### A run, again -/

section

variable {base : Location} {request : SyncRequest} {entries : List Snapshot.Entry}
  {t t' : FileTree} {scan scan' : LibraryScan base} {run : SyncRun}

/-- A run that has returned, with failures or without, and whose scan
finds the same libraries again: a second run returns too, fails for the
same files, and leaves the tree exactly as the first one has left it. -/
theorem sync_idempotent (hmode : request.mode = .write)
    (hscan : Session.outcome (scanLibraries base request.installRoot request.layout) t =
      .ok scan)
    (hrun : (sync base request entries : Session SyncRun) t = .ok run t')
    (hscan' : Session.outcome (scanLibraries base request.installRoot request.layout) t' =
      .ok scan')
    (hsame : scan'.libraries.Perm scan.libraries) :
    ∃ again, (sync base request entries : Session SyncRun) t' = .ok again t' ∧
      again.result.failures.map (fun f => (f.path, f.unit)) =
        run.result.failures.map (fun f => (f.path, f.unit)) := by
  obtain ⟨scan₁, outcomes, hscan₁, hout, hall, rfl⟩ := sync_eq_ok hrun
  rw [hscan] at hscan₁
  cases hscan₁
  rw [hmode, ← runTargets_perm request _ hsame] at hall
  obtain ⟨again, hagain, hfailures⟩ :=
    bringAllUpToDate_again (liesIn_runTargets request scan'.libraries _) hout hall
  refine ⟨.ofOutcomes (Snapshot.ofEntries entries) scan' again, ?_, hfailures⟩
  rw [sync_of_scan hscan' hout, hmode, hagain]

end

/-- In the small setting a directory in the place of a unit's file fails
that unit. -/
theorem not_ok_of_directory_in_the_way {more : List (Location × Node)}
    {entries : List Snapshot.Entry} {u : CompilationUnit} {run : SyncRun} {t' : FileTree}
    (hu : u ∈ (Snapshot.ofEntries entries).units)
    (hdir : (smallTree more).node? ["out", projectFileName u.name] = some .directory)
    (hrun : (sync [] smallRequest entries : Session SyncRun) (smallTree more) = .ok run t') :
    run.result.ok = false := by
  obtain ⟨scan, outcomes, _, hout, hall, rfl⟩ := sync_eq_ok hrun
  have hin := liesIn_runTargets smallRequest scan.libraries (Snapshot.ofEntries entries).units
  obtain ⟨target, htarget, hfile⟩ : ∃ target ∈ runTargets smallRequest scan.libraries
      (Snapshot.ofEntries entries).units, target.fileName = projectFileName u.name :=
    ⟨_, mem_runTargets.mpr (Or.inl ⟨u, hu, rfl⟩), by simp [Target.fileName]⟩
  have hfailed : ∃ failure, failure ∈ outcomes.filterMap Outcome.failure? := by
    -- Whether or not there is an output directory, that target is not
    -- writable.
    rcases bringAllUpToDate_eq_ok hin hout hall with
      ⟨t₁, d, hmakes, hd, _, haccounts, _⟩ | ⟨_, _, _, haccounts, _⟩
    · obtain rfl := hmakes.eq_of_directory (locate_smallTree more)
      rw [locate_smallTree] at hd
      cases hd
      obtain ⟨failure, hfailure, _⟩ :=
        haccounts.failure_of_target htarget fun hw => hw.2 (by simpa [hfile] using hdir)
      exact ⟨failure, hfailure⟩
    · obtain ⟨failure, hfailure, _⟩ := haccounts.failure_of_target htarget id
      exact ⟨failure, hfailure⟩
  obtain ⟨failure, hfailure⟩ := hfailed
  rw [SyncResult.ok, failures_ofOutcomes, List.isEmpty_eq_false_iff]
  exact List.ne_nil_of_mem hfailure

/-- Two units of one name with two texts, and a directory in the place of
a third file: the run fails, and a second one fails for the same file and
leaves what was there. -/
theorem sync_idempotent_two_texts_and_failure :
    let entries : List Snapshot.Entry := [.unit { name := "A", defines := ["X"] },
      .unit { name := "A", defines := ["Y"] }, .unit { name := "B" }]
    let t := smallTree [(["out", "B.csproj"], .directory)]
    ∃ run t', (sync [] smallRequest entries : Session SyncRun) t = .ok run t' ∧
      run.result.ok = false ∧
      ∃ again, (sync [] smallRequest entries : Session SyncRun) t' = .ok again t' ∧
        again.result.failures.map (fun f => (f.path, f.unit)) =
          run.result.failures.map (fun f => (f.path, f.unit)) := by
  intro entries t
  have hnone : t.node? ["lib"] = none := rfl
  obtain ⟨run, t', hrun⟩ : ∃ run t', (sync [] smallRequest entries : Session SyncRun) t =
      .ok run t' :=
    (exists_sync_iff rfl (scan_smallRequest hnone)).mpr ⟨by decide, Or.inl (by decide)⟩
  have hfails := not_ok_of_directory_in_the_way (u := { name := "B" }) (by decide) rfl hrun
  have hscan' := scan_smallRequest (no_installation_of_sync hnone hrun)
  exact ⟨run, t', hrun, hfails, sync_idempotent rfl (scan_smallRequest hnone) hrun hscan'
    (List.Perm.refl _)⟩

end IdeProjects
