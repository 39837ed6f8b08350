import IdeProjects.Proofs.Document
import IdeProjects.Proofs.Sync.Target

/-!
# `IdeProjects.Proofs.Sync.OneFile`: a write touches what it reports

Bringing one file up to date ends with a status, or it is refused, and each
says what has happened to the tree (`WritesAsReported`). Nothing has, unless
the status is that the file was written or a write was tried and refused.
After a write the path leads to the bytes; directories that were made are
those of the path of its directory and those above it, and all else is as
before. What is refused may leave such directories behind, but no file.

The ways to directories stay when directories and files are added
(`IsOnWay.kept`), so what the single requests have made is still on the way
of the path in the tree at the end.
-/

set_option autoImplicit false

namespace IdeProjects

open FileTree

/-! ### Directories on the way of a path -/

namespace FileTree

/-- The place of a directory that the path or one above it leads to. -/
def IsOnWay (t : FileTree) (p : Path) (place : Location) : Prop :=
  ∃ q : Path, q.root = p.root ∧ q.parts <+: p.parts ∧ t.locate q = .ok (.node place .directory)

variable {t t' : FileTree} {p : Path}

/-- A directory on the way of a path stays there when directories are kept. -/
theorem IsOnWay.kept {place : Location} (hkeep : KeepsDirectories t t')
    (h : t.IsOnWay p place) : t'.IsOnWay p place := by
  obtain ⟨q, hroot, hq, hplace⟩ := h
  exact ⟨q, hroot, hq, locate_of_keepsDirectories hkeep hplace⟩

/-- What is on the way of the directory of a path is on the way of the path.
-/
theorem IsOnWay.of_parent {place : Location} (h : t.IsOnWay p.parent place) :
    t.IsOnWay p place := by
  obtain ⟨q, hroot, hq, hplace⟩ := h
  exact ⟨q, hroot, hq.trans (List.dropLast_prefix _), hplace⟩

/-- A tree that has grown at some places has grown at any that include them.
-/
theorem GrownAt.mono {allowed allowed' : Location → Prop} (h : GrownAt allowed t t')
    (hall : ∀ place, allowed place → allowed' place) : GrownAt allowed' t t' where
  base_eq := h.base_eq
  node? place := (h.node? place).imp_right fun ⟨hnone, hdir, hplace⟩ =>
    ⟨hnone, hdir, hall place hplace⟩

/-- Growing leaves every directory where it is. -/
theorem GrownAt.keepsDirectories {allowed : Location → Prop} (h : GrownAt allowed t t') :
    KeepsDirectories t t' where
  base_eq := h.base_eq
  directory _ hdir := h.node?_eq hdir

/-- Growing along a path and once more is growing along the path. -/
theorem GrownAt.trans_onWay {t'' : FileTree} (h : GrownAt (t'.IsOnWay p) t t')
    (h' : GrownAt (t''.IsOnWay p) t' t'') : GrownAt (t''.IsOnWay p) t t'' :=
  (h.mono fun _ => IsOnWay.kept h'.keepsDirectories).trans h'

end FileTree

namespace Storage

/-- A single directory is made where the path leads, which is then on its way.
-/
theorem onWay_of_makeUnlessThere (p : Path) (t : FileTree) :
    GrownAt ((Session.after (makeUnlessThere p) t).IsOnWay p) t
      (Session.after (makeUnlessThere p) t) := by
  refine after_makeUnlessThere fun v hv => ⟨p, rfl, List.prefix_refl _, ?_⟩
  have hafter : Session.after (makeUnlessThere p) t = t.put v .directory := by
    rw [Session.after, makeUnlessThere_apply, hv]
  rw [hafter]
  exact (locate_put_of_vacant hv).2.2 _

/-- Directories are made at places that the path or one above it leads to, and
nothing else changes. By induction on the parts that are left, with one
directory at a time in `onWay_of_makeUnlessThere`. -/
theorem onWay_of_makeWithin (fuel : Nat) :
    ∀ (p : Path) (t : FileTree), GrownAt ((Session.after (makeWithin fuel p) t).IsOnWay p) t
      (Session.after (makeWithin fuel p) t) := by
  -- On the fuel. What was made for the parent stays on the way when the
  -- directory itself follows.
  induction fuel with
  | zero => exact onWay_of_makeUnlessThere
  | succ fuel ih =>
      intro p t
      have hparent : GrownAt ((Session.after (makeWithin fuel p.parent) t).IsOnWay p) t
          (Session.after (makeWithin fuel p.parent) t) :=
        (ih p.parent t).mono fun _ => IsOnWay.of_parent
      rcases makeWithin_succ_cases fuel p t with ⟨t₁, hmade, hrun⟩ | ⟨fault, _, hrun⟩ |
        ⟨t₁, habove, hrun⟩ | ⟨fault, t₁, _, habove, hrun⟩
      · have hself := onWay_of_makeUnlessThere p t
        simp only [Session.after, hmade] at hself
        simpa only [Session.after, hrun] using hself
      · simpa only [Session.after, hrun] using GrownAt.refl t
      · simp only [Session.after, habove] at hparent
        have hall := hparent.trans_onWay (onWay_of_makeUnlessThere p t₁)
        simpa only [Session.after, hrun] using hall
      · simp only [Session.after, habove] at hparent
        simpa only [Session.after, hrun] using hparent

/-- All directories that are made for a path are on its way. -/
theorem onWay_of_makeDirectories (p : Path) (t : FileTree) :
    GrownAt ((Session.after (makeDirectories p) t).IsOnWay p) t
      (Session.after (makeDirectories p) t) :=
  onWay_of_makeWithin _ p t

end Storage

/-! ### A file and the directories for it -/

/-- `t'` is `t` with the bytes at the path, in the place of nothing or of
another file, and with the directories for it that were missing. -/
def WrittenAt (p : Path) (bytes : List UInt8) (t t' : FileTree) : Prop :=
  t'.base = t.base ∧ ∃ d, t'.locate p = .ok (.node d (.file bytes)) ∧
    t.node? d ≠ some .directory ∧
    ∀ place, place ≠ d → t'.node? place = t.node? place ∨
      (t.node? place = none ∧ t'.node? place = some .directory ∧ t'.IsOnWay p.parent place)

section

variable {t t' : FileTree} {p : Path} {bytes : List UInt8}

/-- A file that was written within its directories is at its path, and the
rest of the tree is as it was, but for these directories. -/
theorem writtenAt_of_writeWithin
    (h : (Storage.writeWithin p bytes : Session Unit) t = .ok () t') : WrittenAt p bytes t t' := by
  obtain ⟨_, t₁, hmade, hwrite⟩ := Session.bind_eq_ok.mp h
  have hgrown := Storage.onWay_of_makeDirectories p.parent t
  simp only [Session.after, hmade] at hgrown
  have hchange : Session.change (·.write p bytes) t₁ = .ok () t' := hwrite
  rw [Session.change_apply] at hchange
  split at hchange
  · rename_i hdone
    cases hchange
    obtain ⟨d, hd, hfree, rfl, hplace⟩ := locate_after_write hdone
    -- No directory stood at the place of the file, so all ways stay.
    have hkeep : KeepsDirectories t₁ (t₁.put d (.file bytes)) :=
      keepsDirectories_put hd fun hdir => absurd hdir hfree
    refine ⟨hgrown.base_eq, d, hplace, fun hdir => hfree (hgrown.node?_eq hdir),
      fun place hne => ?_⟩
    rw [node?_put t₁ hd, if_neg hne]
    rcases hgrown.node? place with hsame | ⟨hnone, hdir, hway⟩
    · exact Or.inl hsame
    · exact Or.inr ⟨hnone, hdir, hway.kept hkeep⟩
  · cases hchange

/-- A write that was refused has made directories at most, on the way to the
file. The bytes are put down in one step at the end, which happens or does
not. -/
theorem grown_of_writeWithin_error {fault : Fault}
    (h : (Storage.writeWithin p bytes : Session Unit) t = .error fault t') :
    GrownAt (t'.IsOnWay p.parent) t t' := by
  have hgrown := Storage.onWay_of_makeDirectories p.parent t
  rw [Storage.writeWithin, Session.bind_apply] at h
  cases hmade : (Storage.makeDirectories p.parent : Session Unit) t with
  | error fault' t₁ =>
      simp only [Session.after, hmade] at hgrown
      rw [hmade] at h
      cases h
      exact hgrown
  | ok _ t₁ =>
      simp only [Session.after, hmade] at hgrown
      rw [hmade] at h
      have hchange : Session.change (·.write p bytes) t₁ = .error fault t' := h
      rw [Session.change_apply] at hchange
      split at hchange <;> cases hchange
      exact hgrown

/-- The look at a path finds bytes if and only if it leads to a file with
them. -/
theorem outcome_existingBytes?_eq_some_iff :
    Session.outcome (existingBytes? p) t = .ok (some bytes) ↔
      ∃ d, t.locate p = .ok (.node d (.file bytes)) := by
  rw [Session.outcome, existingBytes?_apply]
  cases t.locate p with
  | ok found =>
      rcases found with ⟨d, x⟩ | v
      · cases x <;> simp
      · simp
  | error fault =>
      cases fault with
      | file error =>
          obtain ⟨issue, text⟩ := error
          cases issue <;> simp
      | _ => simp

end

/-! ### What is reported -/

/-- The outcome of bringing a file up to date tells what has become of the
tree. -/
structure WritesAsReported (check dryRun : Bool) (p : Path) (content : String) (t : FileTree)
    (run : EStateM.Result Fault FileTree Written) : Prop where
  /-- The file is left alone if and only if it holds the bytes of the text. -/
  unchanged_iff : (∃ w t', run = .ok w t' ∧ w.status = .unchanged) ↔
    ∃ d, t.locate p = .ok (.node d (.file (Text.Utf8.encode content)))
  /-- Otherwise the switches decide the status, the one for a check first. -/
  status : ∀ w t', run = .ok w t' → w.status ≠ .unchanged →
    w.status = if check then .drift else if dryRun then .wouldWrite else .written
  /-- Only a file that was written has changed the tree. -/
  kept : ∀ w t', run = .ok w t' → w.status ≠ .written → t' = t
  /-- A file that was written is there, and besides that only directories on
  its way that were missing. -/
  written : ∀ w t', run = .ok w t' → w.status = .written →
    WrittenAt p (Text.Utf8.encode content) t t'
  /-- Only a write that was tried and refused changes the tree of a refusal. -/
  refused : ∀ fault t', run = .error fault t' → t' = t ∨ check = false ∧ dryRun = false ∧
    (Storage.writeWithin p (Text.Utf8.encode content) : Session Unit) t = .error fault t'
  /-- It has made directories on the way, and no file has come or gone or has
  other bytes. -/
  grown : ∀ fault t', run = .error fault t' →
    GrownAt (t'.IsOnWay p.parent) t t' ∧ ∀ place, t'.bytes? place = t.bytes? place

section

variable {check dryRun : Bool} {p : Path} {content : String} {t t' : FileTree}

/-- A refusal that has left nothing but directories. -/
theorem WritesAsReported.of_error {fault : Fault}
    (hother : ¬ ∃ d, t.locate p = .ok (.node d (.file (Text.Utf8.encode content))))
    (hgrown : GrownAt (t'.IsOnWay p.parent) t t')
    (hwhy : t' = t ∨ check = false ∧ dryRun = false ∧
      (Storage.writeWithin p (Text.Utf8.encode content) : Session Unit) t = .error fault t') :
    WritesAsReported check dryRun p content t (.error fault t') where
  unchanged_iff := ⟨nofun, fun h => absurd h hother⟩
  status := nofun
  kept := nofun
  written := nofun
  refused _ _ h := by
    cases h
    exact hwhy
  grown _ _ h := by
    cases h
    exact ⟨hgrown, hgrown.bytes?_eq⟩

/-- A file with other bytes, and the status of the switches for it. Three
statuses share this shape and differ in what they say about the tree alone. -/
theorem WritesAsReported.of_ok {status : WriteStatus} {diff? : Option String}
    (hother : ¬ ∃ d, t.locate p = .ok (.node d (.file (Text.Utf8.encode content))))
    (hne : status ≠ .unchanged)
    (hstatus : status = if check then .drift else if dryRun then .wouldWrite else .written)
    (hkept : status ≠ .written → t' = t)
    (hwritten : status = .written → WrittenAt p (Text.Utf8.encode content) t t') :
    WritesAsReported check dryRun p content t (.ok ⟨status, diff?⟩ t') where
  unchanged_iff := by
    refine ⟨?_, fun h => absurd h hother⟩
    rintro ⟨w, t₁, h, hw⟩
    cases h
    exact absurd hw hne
  status _ _ h _ := by
    cases h
    exact hstatus
  kept _ _ h := by
    cases h
    exact hkept
  written _ _ h := by
    cases h
    exact hwritten
  refused := nofun
  grown := nofun

/-- A file that holds the bytes of the text is left alone. -/
theorem WritesAsReported.of_unchanged
    (hsame : ∃ d, t.locate p = .ok (.node d (.file (Text.Utf8.encode content)))) :
    WritesAsReported check dryRun p content t (.ok ⟨.unchanged, none⟩ t) where
  unchanged_iff := ⟨fun _ => hsame, fun _ => ⟨_, _, rfl, rfl⟩⟩
  status _ _ h hne := by
    cases h
    exact absurd rfl hne
  kept _ _ h _ := by
    cases h
    rfl
  written _ _ h hw := by
    cases h
    cases hw
  refused := nofun
  grown := nofun

end

/-- Bringing a file up to date touches what it reports and nothing else,
whatever the tree, the path, the text and the switches. -/
theorem writeIfChanged_writesAsReported (check dryRun showDiff : Bool) (p : Path)
    (content : String) (t : FileTree) :
    WritesAsReported check dryRun p content t
      ((writeIfChanged (.ofSwitches check dryRun showDiff) p content : Session Written) t) := by
  have hlooked : ∀ bytes, Session.outcome (existingBytes? p) t = .ok (some bytes) ↔
      ∃ d, t.locate p = .ok (.node d (.file bytes)) :=
    fun _ => outcome_existingBytes?_eq_some_iff
  rw [writeIfChanged_apply]
  cases hlook : Session.outcome (existingBytes? p) t with
  | error fault =>
      refine .of_error (fun hsame => ?_) (GrownAt.refl t) (Or.inl rfl)
      rw [← hlooked, hlook] at hsame
      cases hsame
  | ok existing =>
      dsimp only
      split
      · rename_i hsame
        subst hsame
        exact .of_unchanged ((hlooked _).mp hlook)
      · rename_i hdiffers
        have hother : ¬ ∃ d, t.locate p = .ok (.node d (.file (Text.Utf8.encode content))) := by
          rw [← hlooked, hlook]
          exact fun heq => hdiffers (Except.ok.inj heq)
        -- The switches in the order in which they count.
        cases check with
        | true => exact .of_ok hother (by decide) rfl (fun _ => rfl) (by simp)
        | false =>
            cases dryRun with
            | true => exact .of_ok hother (by decide) rfl (fun _ => rfl) (by simp)
            | false =>
                have hmode : WriteMode.ofSwitches false false showDiff = .write := rfl
                rw [hmode]
                dsimp only
                cases hrun : (Storage.writeWithin p (Text.Utf8.encode content) : Session Unit) t with
                | ok _ t' =>
                    exact .of_ok hother (by decide) rfl (fun hne => absurd rfl hne)
                      fun _ => writtenAt_of_writeWithin hrun
                | error fault t' =>
                    exact .of_error hother (grown_of_writeWithin_error hrun)
                      (Or.inr ⟨rfl, rfl, hrun⟩)

/-- A file in a directory that is still missing is written, and a second
time it is unchanged. -/
example :
    let t : FileTree := ⟨[], [(["a"], .directory), (["a", "b"], .file [0x78])]⟩
    (writeIfChanged .write ⟨.slash, ["a", "b"]⟩ "x" : Session Written) ⟨[], []⟩ =
        .ok ⟨.written, none⟩ t ∧
      (writeIfChanged .write ⟨.slash, ["a", "b"]⟩ "x" : Session Written) t =
        .ok ⟨.unchanged, none⟩ t := ⟨rfl, rfl⟩

end IdeProjects
