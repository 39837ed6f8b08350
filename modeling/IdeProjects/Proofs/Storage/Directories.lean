import IdeProjects.Proofs.Storage.Places
import IdeProjects.Proofs.Storage.Session

/-!
# `IdeProjects.Proofs.Storage.Directories`: making a directory with those above it

`Storage.makeDirectories` tries the directory first, makes the ones above
it where that fails for want of them, and tries again. It may fail
halfway and leave some of the directories it has made. Four facts say
all that a caller needs:

* `after_makeDirectories`: the tree has grown by directories and nothing
  else has changed, whether the request worked or not.
* `locate_of_makeDirectories`: if it worked, the path leads to a
  directory.
* `makeDirectories_of_directory`: where the path leads to a directory
  already, the request works and changes nothing.
* `makeDirectories_again_of_error`: if it failed, it fails again on the
  tree it has left, and then changes nothing. A directory that cannot be
  made is tried once for every file in it, so this is what makes the
  outcome the same for all of them.
-/

set_option autoImplicit false

namespace IdeProjects

open FileTree

/-! ### Trees with more directories -/

namespace FileTree

/-- `t'` is `t` with directories made at some of the `allowed` places,
where nothing stood. -/
structure GrownAt (allowed : Location → Prop) (t t' : FileTree) : Prop where
  base_eq : t'.base = t.base
  node? : ∀ place, t'.node? place = t.node? place ∨
    (t.node? place = none ∧ t'.node? place = some .directory ∧ allowed place)

namespace GrownAt

variable {allowed : Location → Prop} {t t' t'' : FileTree}

/-- A tree has grown to itself, by nothing. -/
theorem refl (t : FileTree) : GrownAt allowed t t := ⟨rfl, fun _ => Or.inl rfl⟩

/-- What grows twice at allowed places has grown at such places. -/
theorem trans (h : GrownAt allowed t t') (h' : GrownAt allowed t' t'') :
    GrownAt allowed t t'' where
  base_eq := h'.base_eq.trans h.base_eq
  node? place := by
    rcases h'.node? place with he | ⟨hnone, hdir, hall⟩
    · rw [he]
      exact h.node? place
    · rcases h.node? place with he | ⟨_, hdir', _⟩
      · exact Or.inr ⟨he ▸ hnone, hdir, hall⟩
      · rw [hdir'] at hnone
        cases hnone

/-- Making a directory at an allowed place where nothing stands. -/
theorem put {place : Location} (hplace : place ≠ []) (hnone : t.node? place = none)
    (hall : allowed place) : GrownAt allowed t (t.put place .directory) where
  base_eq := rfl
  node? q := by
    rw [node?_put t hplace]
    split
    · rename_i heq
      subst heq
      exact Or.inr ⟨hnone, rfl, hall⟩
    · exact Or.inl rfl

/-- What stood somewhere stands there still. -/
theorem node?_eq (h : GrownAt allowed t t') {place : Location} {x : Node}
    (hx : t.node? place = some x) : t'.node? place = some x := by
  rcases h.node? place with he | ⟨hnone, _, _⟩
  · rw [he, hx]
  · rw [hnone] at hx
    cases hx

/-- No file comes or goes, and none has other bytes. -/
theorem bytes?_eq (h : GrownAt allowed t t') (place : Location) :
    t'.bytes? place = t.bytes? place := by
  rcases h.node? place with he | ⟨hnone, hdir, _⟩
  · exact bytes?_congr he
  · rw [bytes?, bytes?, hnone, hdir]

end GrownAt

end FileTree

namespace Storage

/-! ### One directory -/

/-- Making one directory, read off where its path leads: a vacant place
becomes one, a directory stays, and a file is an error with the words of the
storage. The question whether a directory stands there changes nothing. -/
theorem makeUnlessThere_apply (p : Path) (t : FileTree) :
    (makeUnlessThere p : Session Unit) t =
      match t.locate p with
      | .ok (.vacant v) => .ok () (t.put v .directory)
      | .ok (.node _ .directory) => .ok () t
      | .ok (.node _ (.file _)) => .error (.file ⟨.exists, p.text⟩) t
      | .error fault => .error fault t := by
  have hmake : (makeDirectory p : Session Unit) t = Session.change (·.makeDirectory p) t := rfl
  rw [makeUnlessThere, Session.tryCatch_apply, hmake, Session.change_apply,
    FileTree.makeDirectory]
  cases h : t.locate p with
  | ok found =>
      rcases found with ⟨d, x⟩ | v
      · cases x <;> simp [Session.bind_apply, Session.isDirectory_apply, FileTree.kind?, h]
      · rfl
  | error fault =>
      cases fault with
      | file error =>
          dsimp only
          split
          · rfl
          · -- Only a path that is too long is refused by the question
            -- what stands there, and with the same words.
            rw [Session.bind_apply, Session.isDirectory_apply]
            obtain ⟨issue, text⟩ := error
            cases issue <;> simp_all [FileTree.kind?]
      | _ => rfl

/-- Where the path leads to a directory, there is nothing to make. -/
theorem makeUnlessThere_of_directory {p : Path} {t : FileTree} {d : Location}
    (h : t.locate p = .ok (.node d .directory)) :
    (makeUnlessThere p : Session Unit) t = .ok () t := by
  rw [makeUnlessThere_apply, h]

/-- A directory that was made is there. -/
theorem locate_of_makeUnlessThere {p : Path} {t t' : FileTree}
    (h : (makeUnlessThere p : Session Unit) t = .ok () t') :
    ∃ d, t'.locate p = .ok (.node d .directory) := by
  rw [makeUnlessThere_apply] at h
  split at h
  · rename_i v hv
    cases h
    exact ⟨v, (locate_put_of_vacant hv).2.2 _⟩
  · rename_i d hd
    cases h
    exact ⟨d, hd⟩
  · cases h
  · cases h

/-- A directory can be made only in a directory. Where something new was made
the walk to its parent ended at one, and where a directory stood already it
stands in one too. -/
theorem locate_parent_of_makeUnlessThere {p : Path} {t t' : FileTree}
    (h : (makeUnlessThere p : Session Unit) t = .ok () t') :
    ∃ d, t.locate p.parent = .ok (.node d .directory) := by
  have hfound : (∃ v, t.locate p = .ok (.vacant v)) ∨
      ∃ d, t.locate p = .ok (.node d .directory) := by
    rw [makeUnlessThere_apply] at h
    split at h
    · rename_i v hv
      exact Or.inl ⟨v, hv⟩
    · rename_i d hd
      exact Or.inr ⟨d, hd⟩
    · cases h
    · cases h
  by_cases hparts : p.parts = []
  · -- The path of the start itself: it is its own parent, and no walk
    -- without steps ends at a vacant place.
    have hself : p.parent = p := by
      obtain ⟨root, parts⟩ := p
      simp_all [Path.parent]
    rw [hself]
    rcases hfound with ⟨v, hv⟩ | hd
    · obtain ⟨init, n, d, heq, _⟩ := follow_vacant (locate_eq_ok_iff.mp hv).2.2
      simp [hparts] at heq
    · exact hd
  · rcases hfound with ⟨v, hv⟩ | ⟨d, hd⟩
    · exact locate_parent hparts hv
    · exact locate_parent hparts hd

/-- A directory that could not be made has left the tree as it was. The
fault is about the path itself. -/
theorem makeUnlessThere_error {p : Path} {t t' : FileTree} {fault : Fault}
    (h : (makeUnlessThere p : Session Unit) t = .error fault t') :
    t' = t ∧ ((p.hasNull = true ∧ fault = .nullCharacter) ∨
      ∃ issue, p.hasNull = false ∧ fault = .file ⟨issue, p.text⟩) := by
  rw [makeUnlessThere_apply] at h
  split at h
  · cases h
  · cases h
  · rename_i hfile
    cases h
    exact ⟨rfl, Or.inr ⟨.exists, (locate_eq_ok_iff.mp hfile).1, rfl⟩⟩
  · rename_i herror
    cases h
    refine ⟨rfl, ?_⟩
    rcases locate_eq_error herror with hnull | ⟨issue, hnull, rfl, _⟩
    · exact Or.inl hnull
    · exact Or.inr ⟨issue, hnull, rfl⟩

/-! ### A directory and those above it -/

/-- One level: the directory itself; if only the ones above it are
missing, these and the directory again. -/
theorem makeWithin_succ (fuel : Nat) (p : Path) (t : FileTree) :
    (makeWithin (fuel + 1) p : Session Unit) t =
      match (makeUnlessThere p : Session Unit) t with
      | .ok _ t' => .ok () t'
      | .error (.file error) t' =>
        if error.issue = .notFound then
          match (makeWithin fuel p.parent : Session Unit) t' with
          | .ok _ t'' => (makeUnlessThere p : Session Unit) t''
          | .error fault t'' => .error fault t''
        else .error (.file error) t'
      | .error fault t' => .error fault t' := by
  rw [makeWithin, Session.tryCatch_apply]
  cases (makeUnlessThere p : Session Unit) t with
  | ok a t' => rfl
  | error fault t' =>
      cases fault with
      | file error =>
          dsimp only
          split
          · rw [Session.bind_apply]
            cases (makeWithin fuel p.parent : Session Unit) t' <;> rfl
          · rfl
      | _ => rfl

/-- Where the path leads to a directory, there is nothing to make. -/
theorem makeWithin_of_directory {p : Path} {t : FileTree} {d : Location}
    (h : t.locate p = .ok (.node d .directory)) (fuel : Nat) :
    (makeWithin fuel p : Session Unit) t = .ok () t := by
  cases fuel with
  | zero => exact makeUnlessThere_of_directory h
  | succ fuel => rw [makeWithin_succ, makeUnlessThere_of_directory h]

/-- The steps of one level: the directory is there or was made, or it
cannot be made, or the ones above it come first and decide. -/
theorem makeWithin_succ_cases (fuel : Nat) (p : Path) (t : FileTree) :
    (∃ t', (makeUnlessThere p : Session Unit) t = .ok () t' ∧
      (makeWithin (fuel + 1) p : Session Unit) t = .ok () t') ∨
    (∃ fault, (makeUnlessThere p : Session Unit) t = .error fault t ∧
      (makeWithin (fuel + 1) p : Session Unit) t = .error fault t) ∨
    (∃ t', (makeWithin fuel p.parent : Session Unit) t = .ok () t' ∧
      (makeWithin (fuel + 1) p : Session Unit) t = (makeUnlessThere p : Session Unit) t') ∨
    (∃ fault t', p.hasNull = false ∧
      (makeWithin fuel p.parent : Session Unit) t = .error fault t' ∧
      (makeWithin (fuel + 1) p : Session Unit) t = .error fault t') := by
  rw [makeWithin_succ]
  cases hself : (makeUnlessThere p : Session Unit) t with
  | ok a t' => exact Or.inl ⟨t', rfl, rfl⟩
  | error fault t' =>
      obtain ⟨rfl, ⟨_, rfl⟩ | ⟨issue, hnull, rfl⟩⟩ := makeUnlessThere_error hself
      · exact Or.inr (Or.inl ⟨_, rfl, rfl⟩)
      · by_cases hmissing : issue = .notFound
        · subst hmissing
          cases hparent : (makeWithin fuel p.parent : Session Unit) t' with
          | ok a t'' => exact Or.inr (Or.inr (Or.inl ⟨t'', rfl, by simp [hparent]⟩))
          | error fault t'' => exact Or.inr (Or.inr (Or.inr ⟨fault, t'', hnull, rfl, by simp [hparent]⟩))
        · exact Or.inr (Or.inl ⟨_, rfl, by simp [hmissing]⟩)

/-- A directory that was made is there. -/
theorem locate_of_makeWithin {fuel : Nat} {p : Path} {t t' : FileTree}
    (h : (makeWithin fuel p : Session Unit) t = .ok () t') :
    ∃ d, t'.locate p = .ok (.node d .directory) := by
  cases fuel with
  | zero => exact locate_of_makeUnlessThere h
  | succ fuel =>
      rcases makeWithin_succ_cases fuel p t with ⟨t₁, hself, hrun⟩ | ⟨fault, _, hrun⟩ |
        ⟨t₁, _, hrun⟩ | ⟨fault, t₁, _, _, hrun⟩
      · rw [hrun] at h
        cases h
        exact locate_of_makeUnlessThere hself
      · rw [hrun] at h
        cases h
      · exact locate_of_makeUnlessThere (hrun ▸ h)
      · rw [hrun] at h
        cases h

/-- The tree has grown at vacant places that the path or one above it
leads to. -/
theorem after_makeUnlessThere {allowed : Location → Prop} {p : Path} {t : FileTree}
    (hall : ∀ v, t.locate p = .ok (.vacant v) → allowed v) :
    GrownAt allowed t (Session.after (makeUnlessThere p) t) := by
  unfold Session.after
  rw [makeUnlessThere_apply]
  split
  · rename_i heq
    split at heq
    · rename_i v hv
      cases heq
      obtain ⟨hne, hnone, _⟩ := locate_put_of_vacant hv
      exact GrownAt.put hne hnone (hall v hv)
    · cases heq
      exact GrownAt.refl t
    · cases heq
    · cases heq
  · rename_i heq
    split at heq <;> cases heq
    · exact GrownAt.refl t
    · exact GrownAt.refl t

/-- Making directories grows a tree where the path or one above it leads to
nothing, however it ends. -/
theorem after_makeWithin {allowed : Location → Prop} (fuel : Nat) :
    ∀ (p : Path), (∀ q : Path, q.root = p.root → q.parts <+: p.parts →
        ∀ (t : FileTree) v, t.locate q = .ok (.vacant v) → allowed v) →
      ∀ t, GrownAt allowed t (Session.after (makeWithin fuel p) t) := by
  -- On the fuel, for all paths: the step down goes to the parent, and
  -- what is above the parent is above the path.
  induction fuel with
  | zero =>
      intro p hall t
      exact after_makeUnlessThere (hall p rfl (List.prefix_refl _) t)
  | succ fuel ih =>
      intro p hall t
      have hself : ∀ t, GrownAt allowed t (Session.after (makeUnlessThere p) t) := fun t =>
        after_makeUnlessThere (hall p rfl (List.prefix_refl _) t)
      have hparent : GrownAt allowed t (Session.after (makeWithin fuel p.parent) t) :=
        ih p.parent (fun q hroot hq => hall q hroot (hq.trans (List.dropLast_prefix _))) t
      rcases makeWithin_succ_cases fuel p t with ⟨t₁, hmade, hrun⟩ | ⟨fault, _, hrun⟩ |
        ⟨t₁, habove, hrun⟩ | ⟨fault, t₁, _, habove, hrun⟩
      · have := hself t
        simp only [Session.after, hmade] at this
        simpa only [Session.after, hrun] using this
      · simpa only [Session.after, hrun] using GrownAt.refl t
      · simp only [Session.after, habove] at hparent
        have := hparent.trans (hself t₁)
        simpa only [Session.after, hrun] using this
      · simp only [Session.after, habove] at hparent
        simpa only [Session.after, hrun] using hparent

/-- A request that has failed fails again on the tree it has left, and
leaves that as it is. -/
theorem makeWithin_again_of_error (fuel : Nat) :
    ∀ {p : Path} {t t' : FileTree} {fault : Fault},
      (makeWithin fuel p : Session Unit) t = .error fault t' →
      ∃ fault', (makeWithin fuel p : Session Unit) t' = .error fault' t' := by
  -- On the fuel. One directory alone leaves the tree on which it failed,
  -- so only a failure above or after the ones above is left to look at.
  induction fuel with
  | zero =>
      intro p t t' fault h
      obtain ⟨rfl, _⟩ := makeUnlessThere_error h
      exact ⟨fault, h⟩
  | succ fuel ih =>
      intro p t t' fault h
      rcases makeWithin_succ_cases fuel p t with ⟨t₁, _, hrun⟩ | ⟨fault₁, hself, hrun⟩ |
        ⟨t₁, habove, hrun⟩ | ⟨fault₁, t₁, hnull, habove, hrun⟩
      · rw [hrun] at h
        cases h
      · rw [hrun] at h
        cases h
        exact ⟨fault, hrun⟩
      · -- The ones above are there now, so only the directory itself is
        -- tried again, on the tree it has failed on.
        rw [hrun] at h
        obtain ⟨rfl, _⟩ := makeUnlessThere_error h
        obtain ⟨d, hd⟩ := locate_of_makeWithin habove
        have hparent := makeWithin_of_directory hd fuel
        rcases makeWithin_succ_cases fuel p t' with ⟨t₂, hself, _⟩ | ⟨fault₂, _, hrun₂⟩ |
          ⟨t₂, habove₂, hrun₂⟩ | ⟨fault₂, t₂, _, habove₂, _⟩
        · rw [h] at hself
          cases hself
        · exact ⟨fault₂, hrun₂⟩
        · rw [hparent] at habove₂
          cases habove₂
          exact ⟨fault, hrun₂.trans h⟩
        · rw [hparent] at habove₂
          cases habove₂
      · -- The one above has failed and fails again, so the directory
        -- itself cannot be there.
        rw [hrun] at h
        cases h
        obtain ⟨fault', hagain⟩ := ih habove
        rcases makeWithin_succ_cases fuel p t' with ⟨t₂, hself, _⟩ | ⟨fault₂, _, hrun₂⟩ |
          ⟨t₂, habove₂, _⟩ | ⟨fault₂, t₂, _, habove₂, hrun₂⟩
        · obtain ⟨d, hd⟩ := locate_parent_of_makeUnlessThere hself
          rw [makeWithin_of_directory hd fuel] at hagain
          cases hagain
        · exact ⟨fault₂, hrun₂⟩
        · rw [hagain] at habove₂
          cases habove₂
        · rw [hagain] at habove₂
          cases habove₂
          exact ⟨fault', hrun₂⟩

/-- No directory has a null character in its path. -/
theorem makeWithin_of_null {p : Path} (hnull : p.hasNull = true) (fuel : Nat) (t : FileTree) :
    (makeWithin fuel p : Session Unit) t = .error .nullCharacter t := by
  have hself : (makeUnlessThere p : Session Unit) t = .error .nullCharacter t := by
    rw [makeUnlessThere_apply, FileTree.locate, if_pos hnull]
  cases fuel with
  | zero => exact hself
  | succ fuel => rw [makeWithin_succ, hself]

/-- All other directories fail to be made for a reason of the storage, so
whoever catches those errors lets nothing through. By induction on the parts
that are left: every failure is one of a single directory. -/
theorem makeWithin_error (fuel : Nat) :
    ∀ {p : Path} {t t' : FileTree} {fault : Fault}, p.hasNull = false →
      (makeWithin fuel p : Session Unit) t = .error fault t' →
      ∃ error, fault = .file error := by
  have hself : ∀ {p : Path} {t t' : FileTree} {fault : Fault}, p.hasNull = false →
      (makeUnlessThere p : Session Unit) t = .error fault t' → ∃ error, fault = .file error := by
    intro p t t' fault hnull h
    rcases (makeUnlessThere_error h).2 with ⟨hnull', _⟩ | ⟨issue, _, rfl⟩
    · rw [hnull] at hnull'
      cases hnull'
    · exact ⟨_, rfl⟩
  -- On the fuel: one step makes the parent with less of it, then tries
  -- the directory again.
  induction fuel with
  | zero =>
      intro p t t' fault hnull h
      exact hself hnull h
  | succ fuel ih =>
      intro p t t' fault hnull h
      rcases makeWithin_succ_cases fuel p t with ⟨t₁, _, hrun⟩ | ⟨fault₁, hone, hrun⟩ |
        ⟨t₁, _, hrun⟩ | ⟨fault₁, t₁, _, habove, hrun⟩
      · rw [hrun] at h
        cases h
      · rw [hrun] at h
        cases h
        exact hself hnull hone
      · exact hself hnull (hrun ▸ h)
      · rw [hrun] at h
        cases h
        exact ih (Path.hasNull_parent hnull) habove

/-! ### The whole request -/

/-- A directory that is there is not made again. -/
theorem makeDirectories_of_directory {p : Path} {t : FileTree} {d : Location}
    (h : t.locate p = .ok (.node d .directory)) :
    (makeDirectories p : Session Unit) t = .ok () t :=
  makeWithin_of_directory h _

/-- Once its directories are made, a path leads to a directory. -/
theorem locate_of_makeDirectories {p : Path} {t t' : FileTree}
    (h : (makeDirectories p : Session Unit) t = .ok () t') :
    ∃ d, t'.locate p = .ok (.node d .directory) :=
  locate_of_makeWithin h

/-- A path with a null character is refused before anything is made. -/
theorem makeDirectories_of_null {p : Path} (hnull : p.hasNull = true) (t : FileTree) :
    (makeDirectories p : Session Unit) t = .error .nullCharacter t :=
  makeWithin_of_null hnull _ t

/-- Without a null character only the file system can refuse. -/
theorem makeDirectories_error {p : Path} {t t' : FileTree} {fault : Fault}
    (hnull : p.hasNull = false) (h : (makeDirectories p : Session Unit) t = .error fault t') :
    ∃ error, fault = .file error :=
  makeWithin_error _ hnull h

/-- What could not be made cannot be made in the tree that the attempt has
left either, and the second attempt leaves it as it is. -/
theorem makeDirectories_again_of_error {p : Path} {t t' : FileTree} {fault : Fault}
    (h : (makeDirectories p : Session Unit) t = .error fault t') :
    ∃ fault', (makeDirectories p : Session Unit) t' = .error fault' t' :=
  makeWithin_again_of_error _ h

/-- The tree has grown at vacant places that the path or one above it
leads to. -/
theorem after_makeDirectories {allowed : Location → Prop} {p : Path}
    (hall : ∀ q : Path, q.root = p.root → q.parts <+: p.parts →
      ∀ (t : FileTree) v, t.locate q = .ok (.vacant v) → allowed v) (t : FileTree) :
    GrownAt allowed t (Session.after (makeDirectories p) t) :=
  after_makeWithin _ p hall t

/-- No file comes or goes where directories are made, and none has other
bytes. -/
theorem bytes?_after_makeDirectories (p : Path) (t : FileTree) (place : Location) :
    (Session.after (makeDirectories p) t).bytes? place = t.bytes? place := by
  have hgrown : GrownAt (fun _ => True) t (Session.after (makeDirectories p) t) :=
    after_makeDirectories (fun _ _ _ _ _ _ => trivial) t
  exact hgrown.bytes?_eq place

/-- From the root and without `..`, directories are made on the way to
the place of the path and nowhere else. -/
theorem after_makeDirectories_down {p : Path} (habs : p.isAbsolute = true)
    (hdots : ".." ∉ p.parts) (t : FileTree) :
    GrownAt (· <+: p.parts) t (Session.after (makeDirectories p) t) := by
  refine after_makeDirectories (fun q hroot hq t v hv => ?_) t
  have hqabs : q.isAbsolute = true := by
    rw [Path.isAbsolute, hroot]
    exact habs
  have hqdots : ".." ∉ q.parts := fun hmem => hdots (hq.subset hmem)
  rcases locate_down hqabs hqdots hv with heq | ⟨x, heq⟩
  · cases heq
    exact hq
  · cases heq

end Storage

end IdeProjects
