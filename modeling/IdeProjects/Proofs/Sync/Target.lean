import IdeProjects.Proofs.Storage.Directories
import IdeProjects.Sync.Run

/-!
# `IdeProjects.Proofs.Sync.Target`: what becomes of one target

`writeIfChanged` looks at the file, and only the mode `write` goes on to
change anything. `writeIfChanged_apply` is its run, with the look in front.

In the mode `write` the file lies in the output directory, which is made
on the way. `Makes out t t'` says that this works and leaves `t'`; then
the directory is at one place `d` of `t'`, and the fate of every target
is decided by what stands there:

* `writeIfChanged_of_writable`, `bringUpToDate_of_writable`: a target that
  is `Writable` holds its bytes afterwards, and the tree is `t'` with the
  file put in.
* `bringUpToDate_of_not_writable`: any other fails, and the tree is `t'`,
  or `t` still.
* `bringUpToDate_of_null`: a name with a null character ends the run.
* `bringUpToDate_of_blocked`: where the directory cannot be made, every
  target fails.
-/

set_option autoImplicit false

namespace IdeProjects

open FileTree

/-! ### Looking at a file -/

/-- The bytes at a path, read off where it leads. A path that leads nowhere
has none, one that is too long is refused, and a directory exists but cannot
be read. -/
theorem existingBytes?_apply (p : Path) (t : FileTree) :
    (existingBytes? p : Session (Option (List UInt8))) t =
      match t.locate p with
      | .ok (.node _ (.file bytes)) => .ok (some bytes) t
      | .ok (.node _ .directory) => .error (.file ⟨.isDirectory, p.text⟩) t
      | .ok (.vacant _) => .ok none t
      | .error (.file ⟨.nameTooLong, text⟩) => .error (.file ⟨.nameTooLong, text⟩) t
      | .error _ => .ok none t := by
  have hkind : (Storage.kind? p : Session (Option FileKind)) t = Session.look (·.kind? p) t := rfl
  have hread : (Storage.read p : Session (List UInt8)) t = Session.look (·.read p) t := rfl
  rw [existingBytes?, Session.bind_apply, hkind, Session.look_apply, FileTree.kind?]
  cases h : t.locate p with
  | ok found =>
      rcases found with ⟨d, x⟩ | v
      · cases x <;>
          simp [Session.bind_apply, hread, Session.look_apply, FileTree.read, h]
      · rfl
  | error fault =>
      cases fault with
      | file error =>
          obtain ⟨issue, text⟩ := error
          cases issue <;> rfl
      | _ => rfl

/-- The look at a file changes nothing. -/
theorem readOnly_existingBytes? (p : Path) :
    Session.ReadOnly (existingBytes? p : Session (Option (List UInt8))) := by
  intro t
  rw [Session.after, existingBytes?_apply]
  split <;> rename_i heq <;> split at heq <;> cases heq <;> rfl

/-- The run of a target's write, with the look at the file in front. What
follows the look depends on the bytes and the mode alone, and the write is the
one case in which the tree changes. -/
theorem writeIfChanged_apply (mode : WriteMode) (p : Path) (content : String) (t : FileTree) :
    (writeIfChanged mode p content : Session Written) t =
      match Session.outcome (existingBytes? p) t with
      | .error fault => .error fault t
      | .ok existing =>
        if existing = some (Text.Utf8.encode content) then .ok ⟨.unchanged, none⟩ t
        else match mode with
          | .check showDiff =>
            .ok ⟨.drift, if showDiff then some (fileDiff p existing content) else none⟩ t
          | .dryRun => .ok ⟨.wouldWrite, none⟩ t
          | .write =>
            match (Storage.writeWithin p (Text.Utf8.encode content) : Session Unit) t with
            | .ok _ t' => .ok ⟨.written, none⟩ t'
            | .error fault t' => .error fault t' := by
  -- The look changes nothing, so the cases are those of what it sees.
  rw [writeIfChanged, Session.bind_apply, (readOnly_existingBytes? p).apply]
  cases Session.outcome (existingBytes? p) t with
  | error fault => rfl
  | ok existing =>
      dsimp only
      split
      · rfl
      · cases mode with
        | check showDiff => rfl
        | dryRun => rfl
        | write =>
            dsimp only
            rw [Session.bind_apply]
            cases (Storage.writeWithin p (Text.Utf8.encode content) : Session Unit) t <;> rfl

/-- A target's run: refusals of the storage are recorded, and nothing
else stops a target. -/
theorem bringUpToDate_apply (mode : WriteMode) (target : Target) (t : FileTree) :
    (target.bringUpToDate mode : Session Outcome) t =
      match (writeIfChanged mode target.path target.content : Session Written) t with
      | .ok written t' => .ok (.done ⟨target.path, written.status, target.unit⟩ written.diff?) t'
      | .error (.file error) t' => .ok (.failed ⟨target.path, error.message, target.unit⟩) t'
      | .error fault t' => .error fault t' := by
  rw [Target.bringUpToDate, Session.bind_apply, Session.attempt_apply]
  cases (writeIfChanged mode target.path target.content : Session Written) t with
  | ok written t' => rfl
  | error fault t' => cases fault <;> rfl

/-! ### Writing into a directory -/

/-- The directory `out` is there or can be made in `t`, and `t'` is the
tree with it. -/
def Makes (out : Path) (t t' : FileTree) : Prop :=
  (Storage.makeDirectories out : Session Unit) t = .ok () t'

/-- Whether an entry of the directory `out`, which lies at `d`, can hold
a file: the limits on lengths allow it and no directory is in the way. -/
def Writable (t : FileTree) (out : Path) (d : Location) (n : String) : Prop :=
  Fits out n ∧ t.node? (d ++ [n]) ≠ some .directory

instance (t : FileTree) (out : Path) (d : Location) (n : String) :
    Decidable (Writable t out d n) :=
  inferInstanceAs (Decidable (_ ∧ _))

section

variable {out : Path} {t t' : FileTree} {d : Location} {n : String}

/-- To make a directory is to run for it. -/
theorem Makes.run (hmakes : Makes out t t') :
    (Storage.makeDirectories out : Session Unit) t = .ok () t' := hmakes

/-- Making a directory that is there changes nothing, and it is where it
was. -/
theorem Makes.eq_of_directory (hmakes : Makes out t t') {d' : Location}
    (h : t.locate out = .ok (.node d' .directory)) : t' = t := by
  rw [Makes, Storage.makeDirectories_of_directory h] at hmakes
  cases hmakes
  rfl

/-- A directory whose path is too long cannot be made. -/
theorem Makes.not_tooLong (hmakes : Makes out t t') :
    t.locate out ≠ .error (.file ⟨.nameTooLong, out.text⟩) := by
  intro hlong
  have hself : (Storage.makeUnlessThere out : Session Unit) t =
      .error (.file ⟨.nameTooLong, out.text⟩) t := by
    rw [Storage.makeUnlessThere_apply, hlong]
  rw [Makes, Storage.makeDirectories] at hmakes
  cases hfuel : out.parts.length with
  | zero =>
      rw [hfuel, Storage.makeWithin, hself] at hmakes
      cases hmakes
  | succ fuel =>
      rw [hfuel, Storage.makeWithin_succ, hself] at hmakes
      simp at hmakes

/-- Writing a file makes its directory first. -/
theorem writeWithin_child (out : Path) (n : String) (bytes : List UInt8) (t : FileTree) :
    (Storage.writeWithin (out.child n) bytes : Session Unit) t =
      match (Storage.makeDirectories out : Session Unit) t with
      | .ok _ t' => Session.change (·.write (out.child n) bytes) t'
      | .error fault t' => .error fault t' := by
  rw [Storage.writeWithin, Session.bind_apply, Path.parent_child]
  cases (Storage.makeDirectories out : Session Unit) t <;> rfl

/-- What the look at an entry finds where its directory can be made: a
refusal, which is final; nothing; or a file, and then the directory is
there already. -/
theorem existingBytes?_child (hmakes : Makes out t t')
    (hd : t'.locate out = .ok (.node d .directory)) (hn : n ≠ "..")
    (hnull : n.toList.contains '\x00' = false) :
    (∃ error, Session.outcome (existingBytes? (out.child n)) t = .error (.file error) ∧
      ¬ Writable t' out d n) ∨
    Session.outcome (existingBytes? (out.child n)) t = .ok none ∨
    ∃ bytes, Session.outcome (existingBytes? (out.child n)) t = .ok (some bytes) ∧
      t' = t ∧ Fits out n ∧ t.node? (d ++ [n]) = some (.file bytes) := by
  have houtnull : out.hasNull = false := (locate_eq_ok_iff.mp hd).1
  unfold Session.outcome
  rw [existingBytes?_apply]
  -- Either the directory is there already, and the entry decides; or it
  -- is still to be made, and then nothing can stand in it.
  by_cases hdir : ∃ d', t.locate out = .ok (.node d' .directory)
  · obtain ⟨d', hd'⟩ := hdir
    obtain rfl := hmakes.eq_of_directory hd'
    rw [locate_child hd hn hnull]
    by_cases hfits : Fits out n
    · rw [if_pos hfits]
      cases hnode : t'.node? (d ++ [n]) with
      | none => exact Or.inr (Or.inl rfl)
      | some x =>
          cases x with
          | directory => exact Or.inl ⟨_, rfl, fun hw => hw.2 hnode⟩
          | file bytes => exact Or.inr (Or.inr ⟨bytes, rfl, rfl, hfits, rfl⟩)
    · rw [if_neg hfits]
      exact Or.inl ⟨_, rfl, fun hw => hfits hw.1⟩
  · have hno : ∀ d', t.locate out ≠ .ok (.node d' .directory) := fun d' hd' => hdir ⟨d', hd'⟩
    have hchild : (out.child n).hasNull = false := by
      rw [Path.hasNull_child, houtnull, hnull, Bool.or_false]
    obtain ⟨issue, herror, hlong⟩ := locate_child_of_no_directory hno hchild
    rw [herror]
    cases issue with
    | nameTooLong =>
        refine Or.inl ⟨_, rfl, fun hw => ?_⟩
        rcases hlong rfl with hfits | htoo
        · exact hfits hw.1
        · exact hmakes.not_tooLong htoo
    | _ => exact Or.inr (Or.inl rfl)

/-- The look at a file in a directory finds its bytes. -/
theorem existingBytes?_of_file {bytes : List UInt8}
    (hd : t.locate out = .ok (.node d .directory)) (hn : n ≠ "..")
    (hnull : n.toList.contains '\x00' = false) (hfits : Fits out n)
    (hnode : t.node? (d ++ [n]) = some (.file bytes)) :
    Session.outcome (existingBytes? (out.child n)) t = .ok (some bytes) := by
  unfold Session.outcome
  rw [existingBytes?_apply, locate_child hd hn hnull, if_pos hfits, hnode]

/-- Writing an entry of a directory. -/
theorem write_child (hd : t.locate out = .ok (.node d .directory)) (hn : n ≠ "..")
    (hnull : n.toList.contains '\x00' = false) (bytes : List UInt8) :
    (Writable t out d n ∧ Session.change (·.write (out.child n) bytes) t =
      .ok () (t.put (d ++ [n]) (.file bytes))) ∨
    (¬ Writable t out d n ∧ ∃ error,
      Session.change (·.write (out.child n) bytes) t = .error (.file error) t) := by
  rw [Session.change_apply, FileTree.write, locate_child hd hn hnull]
  by_cases hfits : Fits out n
  · rw [if_pos hfits]
    cases hnode : t.node? (d ++ [n]) with
    | none => exact Or.inl ⟨⟨hfits, by simp [hnode]⟩, rfl⟩
    | some x =>
        cases x with
        | directory => exact Or.inr ⟨fun hw => hw.2 hnode, _, rfl⟩
        | file bytes => exact Or.inl ⟨⟨hfits, by simp [hnode]⟩, rfl⟩
  · rw [if_neg hfits]
    exact Or.inr ⟨fun hw => hfits hw.1, _, rfl⟩

/-- A file that its directory takes holds the text afterwards. It is reported
as unchanged if it has held it before, and otherwise as written. -/
theorem writeIfChanged_of_writable (hmakes : Makes out t t')
    (hd : t'.locate out = .ok (.node d .directory)) (hn : n ≠ "..")
    (hnull : n.toList.contains '\x00' = false) (hw : Writable t' out d n) (content : String) :
    ∃ status, (writeIfChanged .write (out.child n) content : Session Written) t =
        .ok ⟨status, none⟩ (t'.put (d ++ [n]) (.file (Text.Utf8.encode content))) ∧
      (status = .unchanged ∧ Session.outcome (existingBytes? (out.child n)) t =
          .ok (some (Text.Utf8.encode content)) ∨
        status = .written ∧ Session.outcome (existingBytes? (out.child n)) t ≠
          .ok (some (Text.Utf8.encode content))) := by
  rw [writeIfChanged_apply]
  have hwrite : (Storage.writeWithin (out.child n) (Text.Utf8.encode content) :
      Session Unit) t = .ok () (t'.put (d ++ [n]) (.file (Text.Utf8.encode content))) := by
    rw [writeWithin_child, hmakes.run]
    rcases write_child hd hn hnull (Text.Utf8.encode content) with ⟨_, hrun⟩ | ⟨hnot, _⟩
    · exact hrun
    · exact absurd hw hnot
  rcases existingBytes?_child hmakes hd hn hnull with ⟨_, _, hnot⟩ | hlook |
    ⟨bytes, hlook, heq, _, hnode⟩
  · exact absurd hw hnot
  · exact ⟨.written, by simp [hlook, hwrite], Or.inr ⟨rfl, by simp [hlook]⟩⟩
  · by_cases hsame : bytes = Text.Utf8.encode content
    · -- The file is left alone, which is the same as putting it again.
      have hput : t'.put (d ++ [n]) (.file (Text.Utf8.encode content)) = t := by
        rw [← hsame, heq, put_of_node? (by simp) hnode]
      exact ⟨.unchanged, by simp [hlook, hsame, hput], Or.inl ⟨rfl, by rw [hlook, hsame]⟩⟩
    · exact ⟨.written, by simp [hlook, hsame, hwrite], Or.inr ⟨rfl, by simp [hlook, hsame]⟩⟩

end

/-! ### What becomes of a target that is to be written -/

section

variable {out : Path} {t t' : FileTree} {d : Location} {n : String} {target : Target}

/-- A writable target holds its bytes afterwards. -/
theorem bringUpToDate_of_writable (hpath : target.path = out.child n)
    (hmakes : Makes out t t') (hd : t'.locate out = .ok (.node d .directory))
    (hn : n ≠ "..") (hnull : n.toList.contains '\x00' = false)
    (hw : Writable t' out d n) :
    ∃ status, (target.bringUpToDate .write : Session Outcome) t =
      .ok (.done ⟨target.path, status, target.unit⟩ none)
        (t'.put (d ++ [n]) (.file (Text.Utf8.encode target.content))) := by
  obtain ⟨status, hrun, _⟩ := writeIfChanged_of_writable hmakes hd hn hnull hw target.content
  exact ⟨status, by rw [bringUpToDate_apply, hpath, hrun]⟩

/-- A target that is not writable fails. The directory may have been
made for it or not. -/
theorem bringUpToDate_of_not_writable (hpath : target.path = out.child n)
    (hmakes : Makes out t t') (hd : t'.locate out = .ok (.node d .directory))
    (hn : n ≠ "..") (hnull : n.toList.contains '\x00' = false)
    (hw : ¬ Writable t' out d n) :
    ∃ message t'', (target.bringUpToDate .write : Session Outcome) t =
      .ok (.failed ⟨target.path, message, target.unit⟩) t'' ∧ (t'' = t' ∨ t'' = t) := by
  rw [bringUpToDate_apply, writeIfChanged_apply, hpath]
  rcases existingBytes?_child hmakes hd hn hnull with ⟨error, hlook, _⟩ | hlook |
    ⟨bytes, _, heq, hfits, hnode⟩
  · exact ⟨error.message, t, by simp [hlook], Or.inr rfl⟩
  · rcases write_child hd hn hnull (Text.Utf8.encode target.content) with
      ⟨hyes, _⟩ | ⟨_, error, hrun⟩
    · exact absurd hyes hw
    · refine ⟨error.message, t', ?_, Or.inl rfl⟩
      rw [hlook, writeWithin_child, hmakes.run]
      simp [hrun]
  · exact absurd ⟨hfits, by simp [heq, hnode]⟩ hw

/-- No file has a null character in its name: where its directory can be
made, the target ends the run. -/
theorem bringUpToDate_of_null (hpath : target.path = out.child n)
    (hmakes : Makes out t t') (hnull : n.toList.contains '\x00' = true) :
    (target.bringUpToDate .write : Session Outcome) t = .error .nullCharacter t' := by
  have hchild : (out.child n).hasNull = true := by
    rw [Path.hasNull_child, hnull, Bool.or_true]
  have hlook : Session.outcome (existingBytes? (out.child n)) t = .ok none := by
    rw [Session.outcome, existingBytes?_apply, locate, if_pos hchild]
  have hwrite : Session.change (·.write (out.child n) (Text.Utf8.encode target.content)) t' =
      .error .nullCharacter t' := by
    rw [Session.change_apply, FileTree.write, locate, if_pos hchild]
  rw [bringUpToDate_apply, writeIfChanged_apply, hpath, hlook, writeWithin_child, hmakes.run]
  simp [hwrite]

/-- Where the output directory cannot be made, every target fails and says so.
The tree left is the one the attempt to make the directory leaves, or the one
before it. -/
theorem bringUpToDate_of_blocked {fault : Fault} (hpath : target.path = out.child n)
    (hout : out.hasNull = false)
    (hblocked : (Storage.makeDirectories out : Session Unit) t = .error fault t') :
    ∃ message t'', (target.bringUpToDate .write : Session Outcome) t =
      .ok (.failed ⟨target.path, message, target.unit⟩) t'' ∧ (t'' = t' ∨ t'' = t) := by
  obtain ⟨error, rfl⟩ := Storage.makeDirectories_error hout hblocked
  rw [bringUpToDate_apply, writeIfChanged_apply, hpath]
  -- The look finds nothing, or it is refused before any directory is
  -- made. This is why the tree may be `t` still.
  have hlook : Session.outcome (existingBytes? (out.child n)) t = .ok none ∨
      ∃ error', Session.outcome (existingBytes? (out.child n)) t = .error (.file error') := by
    rw [Session.outcome, existingBytes?_apply]
    have hno : ∀ d', t.locate out ≠ .ok (.node d' .directory) := by
      intro d' hd'
      rw [Storage.makeDirectories_of_directory hd'] at hblocked
      cases hblocked
    by_cases hchild : (out.child n).hasNull = true
    · rw [locate, if_pos hchild]
      exact Or.inl rfl
    · obtain ⟨issue, herror, _⟩ := locate_child_of_no_directory hno (by simpa using hchild)
      rw [herror]
      cases issue with
      | nameTooLong => exact Or.inr ⟨_, rfl⟩
      | _ => exact Or.inl rfl
  rcases hlook with hlook | ⟨error', hlook⟩
  · refine ⟨error.message, t', ?_, Or.inl rfl⟩
    rw [hlook, writeWithin_child, hblocked]
    rfl
  · exact ⟨error'.message, t, by simp [hlook], Or.inr rfl⟩

end

end IdeProjects
