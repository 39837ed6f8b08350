import IdeProjects.Storage.FileTree

/-!
# `IdeProjects.Proofs.Storage.Session`: computations on a tree, step by step

A `Session` is run on a tree and leaves a tree, whether it ends early or
not. The equations here run the parts a session is built from, one part
at a time; `Session.outcome` and `Session.after` are the two halves of
what a run gives. A session that is `ReadOnly` leaves every tree as it
is, and whatever is built from such sessions does the same.
-/

set_option autoImplicit false

namespace IdeProjects

namespace Session

variable {α β : Type}

/-- What a computation gives back from a tree. -/
def outcome (c : Session α) (t : FileTree) : Except Fault α :=
  match c t with
  | .ok a _ => .ok a
  | .error fault _ => .error fault

/-- The tree that a computation leaves. -/
def after (c : Session α) (t : FileTree) : FileTree :=
  match c t with
  | .ok _ t' => t'
  | .error _ t' => t'

/-! ### One part at a time -/

/-- One computation after another: the second starts from the tree that the
first has left, and does not start if the first has ended early. -/
theorem bind_apply (c : Session α) (f : α → Session β) (t : FileTree) :
    (c >>= f) t = match c t with
      | .ok a t' => f a t'
      | .error fault t' => .error fault t' := by
  show EStateM.bind c f t = _
  unfold EStateM.bind
  cases c t <;> rfl

/-- A fault is handled in the tree that the computation has left; nothing is
taken back. -/
theorem tryCatch_apply (c : Session α) (handle : Fault → Session α) (t : FileTree) :
    tryCatch c handle t = match c t with
      | .ok a t' => .ok a t'
      | .error fault t' => handle fault t' := by
  show EStateM.tryCatch c handle t = _
  unfold EStateM.tryCatch
  cases c t <;> rfl

/-- An attempt goes on in the tree its computation leaves: what the tree
turned down is a value with the words for it, and every other fault ends
it. -/
theorem attempt_apply (c : Session α) (t : FileTree) :
    (Storage.attempt c : Session (Except String α)) t = match c t with
      | .ok a t' => .ok (.ok a) t'
      | .error (.file error) t' => .ok (.error error.message) t'
      | .error fault t' => .error fault t' := by
  show Session.attempt c t = _
  unfold Session.attempt
  cases c t with
  | ok a t' => rfl
  | error fault t' => cases fault <;> rfl

/-- A computation that only gives a value leaves the tree alone. -/
@[simp] theorem pure_apply (a : α) (t : FileTree) : (pure a : Session α) t = .ok a t := rfl

/-- A computation that only ends early leaves the tree alone. -/
@[simp] theorem throw_apply (fault : Fault) (t : FileTree) :
    (throw fault : Session α) t = .error fault t := rfl

/-- A look gives what is seen, or the fault, and leaves the tree. -/
theorem look_apply (f : FileTree → Except Fault α) (t : FileTree) :
    look f t = match f t with
      | .ok a => .ok a t
      | .error fault => .error fault t := by
  unfold look
  cases f t <;> rfl

/-- A change leaves the new tree, or the old one with the fault. -/
theorem change_apply (f : FileTree → Except Fault FileTree) (t : FileTree) :
    change f t = match f t with
      | .ok t' => .ok () t'
      | .error fault => .error fault t := by
  unfold change
  cases f t <;> rfl

/-- Whether a directory is at a path is read off the kind of what is there. -/
theorem isDirectory_apply (p : Path) (t : FileTree) :
    (Storage.isDirectory p : Session Bool) t = match t.kind? p with
      | .ok kind => .ok (kind == some .directory) t
      | .error fault => .error fault t := by
  have hkind : (Storage.kind? p : Session (Option FileKind)) t = look (·.kind? p) t := rfl
  rw [Storage.isDirectory, bind_apply, hkind, look_apply]
  cases t.kind? p <;> rfl

/-- A result that was computed without a tree is given with any. -/
theorem ofExcept_apply (e : Except Fault α) (t : FileTree) :
    (MonadExcept.ofExcept e : Session α) t = match e with
      | .ok a => .ok a t
      | .error fault => .error fault t := by
  cases e <;> rfl

/-- A computation whose first part returns goes on from there. -/
theorem bind_of_ok {c : Session α} {t t₁ : FileTree} {a : α} (h : c t = .ok a t₁)
    (f : α → Session β) : (c >>= f) t = f a t₁ := by
  rw [bind_apply, h]

/-- A computation that returns has returned from its first part. -/
theorem bind_eq_ok {c : Session α} {f : α → Session β} {t t' : FileTree} {b : β} :
    (c >>= f) t = .ok b t' ↔ ∃ a t₁, c t = .ok a t₁ ∧ f a t₁ = .ok b t' := by
  rw [bind_apply]
  cases c t with
  | ok a t₁ => simp [and_assoc]
  | error fault t₁ => simp

/-- Such a result is given exactly if it is one, with the tree that was there.
-/
theorem ofExcept_eq_ok {e : Except Fault α} {t t' : FileTree} {a : α} :
    (MonadExcept.ofExcept e : Session α) t = .ok a t' ↔ e = .ok a ∧ t = t' := by
  rw [ofExcept_apply]
  cases e <;> simp

/-! ### Sessions that change nothing -/

/-- The computation leaves every tree as it is. -/
def ReadOnly (c : Session α) : Prop := ∀ t, c.after t = t

/-- A read-only computation gives its outcome back with the tree it was
given. -/
theorem ReadOnly.apply {c : Session α} (h : ReadOnly c) (t : FileTree) :
    c t = match c.outcome t with
      | .ok a => .ok a t
      | .error fault => .error fault t := by
  -- Both halves look at the one run `c t`, so they are taken apart together.
  have ht := h t
  unfold after at ht
  unfold outcome
  cases hc : c t with
  | ok a t' =>
      rw [hc] at ht
      subst ht
      rfl
  | error fault t' =>
      rw [hc] at ht
      subst ht
      rfl

/-- A value is given without a change. -/
theorem readOnly_pure (a : α) : ReadOnly (pure a : Session α) := fun _ => rfl

/-- A look changes nothing, which is what it is for. -/
theorem readOnly_look (f : FileTree → Except Fault α) : ReadOnly (look f) := by
  intro t
  unfold after
  rw [look_apply]
  cases f t <;> rfl

/-- A read-only computation that returns has left the tree it was given. -/
theorem ReadOnly.eq_ok_iff {c : Session α} (h : ReadOnly c) {t t' : FileTree} {a : α} :
    c t = .ok a t' ↔ c.outcome t = .ok a ∧ t = t' := by
  rw [h.apply]
  cases c.outcome t <;> simp

/-- A fault is thrown without a change. -/
theorem readOnly_throw (fault : Fault) : ReadOnly (throw fault : Session α) := fun _ => rfl

/-- A result computed without a tree changes none. -/
theorem readOnly_ofExcept (e : Except Fault α) :
    ReadOnly (MonadExcept.ofExcept e : Session α) := by
  intro t
  cases e <;> rfl

/-- An attempt changes what its computation does, so nothing if that is
read-only. -/
theorem ReadOnly.attempt {c : Session α} (hc : ReadOnly c) :
    ReadOnly (Storage.attempt c : Session (Except String α)) := by
  intro t
  unfold after
  rw [attempt_apply, hc.apply]
  cases c.outcome t with
  | ok a => rfl
  | error fault => cases fault <;> rfl

/-- A read-only computation that comes first only hands on its outcome. -/
theorem ReadOnly.outcome_bind {c : Session α} (h : ReadOnly c) (f : α → Session β)
    (t : FileTree) :
    outcome (c >>= f) t = match outcome c t with
      | .ok a => outcome (f a) t
      | .error fault => .error fault := by
  have hrun : (c >>= f) t = match outcome c t with
      | .ok a => f a t
      | .error fault => .error fault t := by
    rw [bind_apply, h.apply]
    cases outcome c t <;> rfl
  rw [outcome, hrun]
  cases outcome c t <;> rfl

/-- A computation behind a read-only one gives a value exactly if both do,
each from the same tree. -/
theorem ReadOnly.outcome_bind_eq_ok {c : Session α} (h : ReadOnly c) {f : α → Session β}
    {t : FileTree} {b : β} :
    outcome (c >>= f) t = .ok b ↔ ∃ a, outcome c t = .ok a ∧ outcome (f a) t = .ok b := by
  rw [h.outcome_bind]
  cases outcome c t <;> simp

/-- The outcome of a result is the result. -/
theorem outcome_ofExcept (e : Except Fault α) (t : FileTree) :
    outcome (MonadExcept.ofExcept e : Session α) t = e := by
  cases e <;> rfl

/-- The outcome of a look is what is seen in the tree. -/
theorem outcome_look (f : FileTree → Except Fault α) (t : FileTree) :
    outcome (look f) t = f t := by
  rw [outcome, look_apply]
  cases f t <;> rfl

/-- Read-only computations in a row are read-only. -/
theorem ReadOnly.bind {c : Session α} {f : α → Session β} (hc : ReadOnly c)
    (hf : ∀ a, ReadOnly (f a)) : ReadOnly (c >>= f) := by
  intro t
  unfold after
  rw [bind_apply, hc.apply]
  cases c.outcome t with
  | ok a => exact hf a t
  | error fault => rfl

end Session

end IdeProjects
