import IdeProjects.Proofs.CommandLine.Sync
import IdeProjects.Proofs.Config.Grammar
import IdeProjects.Proofs.Sync.Links
import IdeProjects.Proofs.Json.Reader
import IdeProjects.Proofs.Schema.Rules
import IdeProjects.Proofs.Text.Utf8

/-!
# `IdeProjects.Proofs.CommandLine.Refusals`: which inputs are refused

A document that cannot be used should be refused: then the command shows why
and ends with the exit code for that. Of the ways in which a document can
fail some are no refusals but faults of their own, which no command handles:
a path with a null character, bytes that are no text, and a whole number with
too many digits. `answers_loadObject_iff` says that there are no others.

From that it follows for the commands (`refusesInvalid`). A file of units
that holds no valid document is refused if and only if its path has no null
character and its bytes are legible (`IsLegible`). For a configuration it
matters also that the question whether its file is there is answered, which
it is not for a path that is too long.
-/

set_option autoImplicit false

namespace IdeProjects

open Session

/-! ### Paths that are turned down -/

section

variable {t : FileTree} {p : Path}

/-- Only a null character keeps a path from being resolved. -/
theorem resolve_error {base : Location} {fault : Fault}
    (h : Path.resolve base p = .error fault) : fault = .nullCharacter := by
  rw [Path.resolve] at h
  split at h <;> cases h
  rfl

/-- The file at a path that is not read has a null character in the path or
is turned down by the storage. -/
theorem read_error {fault : Fault} (h : t.read p = .error fault) :
    (p.hasNull = true ∧ fault = .nullCharacter) ∨
      p.hasNull = false ∧ ∃ error, fault = .file error := by
  rw [FileTree.read] at h
  split at h
  · cases h
  · rename_i hfound
    cases h
    exact Or.inr ⟨(FileTree.locate_eq_ok_iff.mp hfound).1, _, rfl⟩
  · rename_i hfound
    cases h
    exact Or.inr ⟨(FileTree.locate_eq_ok_iff.mp hfound).1, _, rfl⟩
  · rename_i herror
    cases h
    rcases FileTree.locate_eq_error herror with hnull | ⟨issue, hnull, rfl, _⟩
    · exact Or.inl hnull
    · exact Or.inr ⟨hnull, _, rfl⟩

/-- A path where something stands has no null character. -/
theorem hasNull_of_kind? {kind : FileKind} (h : t.kind? p = .ok (some kind)) :
    p.hasNull = false := by
  rw [FileTree.kind?] at h
  split at h
  · rename_i hfound
    exact (FileTree.locate_eq_ok_iff.mp hfound).1
  · rename_i hfound
    exact (FileTree.locate_eq_ok_iff.mp hfound).1
  all_goals cases h

/-- A path that was read has no null character. -/
theorem hasNull_of_read {bytes : List UInt8} (h : t.read p = .ok bytes) :
    p.hasNull = false :=
  hasNull_of_kind? (kind?_of_read h)

/-- What stands at a path is asked without an answer only if the storage
turns the path down. -/
theorem kind?_error {fault : Fault} (h : t.kind? p = .error fault) :
    ∃ error, fault = .file error := by
  rw [FileTree.kind?] at h
  split at h
  all_goals cases h
  exact ⟨_, rfl⟩

end

/-! ### Documents -/

/-- What fails is a refusal. -/
def Answers {α : Type} (e : Except Fault α) : Prop :=
  ∀ fault, e = .error fault → ∃ r, fault = .refusal r

/-- The bytes are those of a text, in which the reader meets no whole number
with too many digits. -/
def IsLegible (bytes : List UInt8) : Prop :=
  ∃ s : String, bytes = Text.Utf8.encode s ∧
    ∀ count, Json.read (Text.unifyNewlines s.toList) ≠ .error (.tooManyDigits count)

/-- A document at the path is given or refused: a file can have the path,
and what can be read there is legible. -/
def CanAnswer (t : FileTree) (p : Path) : Prop :=
  p.hasNull = false ∧ ∀ bytes, t.read p = .ok bytes → IsLegible bytes

section

variable {t : FileTree} {p : Path}

/-- A value is an answer. -/
theorem answers_ok {α : Type} (a : α) : Answers (.ok a : Except Fault α) := nofun

/-- A fault is an answer exactly if it is a refusal. -/
theorem answers_error_iff {α : Type} {fault : Fault} :
    Answers (.error fault : Except Fault α) ↔ ∃ r, fault = .refusal r := by
  refine ⟨fun h => h fault rfl, fun h _ heq => ?_⟩
  cases heq
  exact h

/-- A text without that many digits in a row is legible. -/
theorem isLegible_encode {s : String}
    (h : ∀ n, Json.HasDigits (Text.unifyNewlines s.toList) n → n ≤ Json.maxDigits) :
    IsLegible (Text.Utf8.encode s) := by
  refine ⟨s, rfl, fun count hread => ?_⟩
  obtain ⟨hmany, hdigits⟩ := Json.hasDigits_of_tooManyDigits hread
  exact absurd (h count hdigits) (Nat.not_le.mpr hmany)

/-- Bytes are given or refused exactly if they are legible: what is no JSON is
refused, while bytes that are no text and digits that are too many are faults.
-/
theorem answers_ofBytes_iff {bytes : List UInt8} :
    Answers (Document.ofBytes p bytes) ↔ IsLegible bytes := by
  rw [ofBytes_eq]
  cases hdecode : Text.Utf8.decode bytes with
  | error malformed =>
      -- The bytes of a text are decoded, so these are of none.
      refine iff_of_false (by simp [answers_error_iff]) ?_
      rintro ⟨s, rfl, _⟩
      have hok := Text.Utf8.decode_eq_ok_iff.mpr (congrArg Text.Utf8.encode
        (String.ofList_toList (s := s)).symm)
      rw [hok] at hdecode
      cases hdecode
  | ok chars =>
      have hbytes := Text.Utf8.decode_eq_ok_iff.mp hdecode
      have hlegible : IsLegible bytes ↔ ∀ count,
          Json.read (Text.unifyNewlines chars) ≠ .error (.tooManyDigits count) := by
        constructor
        · rintro ⟨s, hs, hread⟩
          rw [Text.Utf8.encode_injective (hs.symm.trans hbytes), String.toList_ofList] at hread
          exact hread
        · exact fun hread => ⟨String.ofList chars, hbytes, by rwa [String.toList_ofList]⟩
      rw [hlegible]
      dsimp only
      cases hread : Json.read (Text.unifyNewlines chars) with
      | ok value => exact iff_of_true (answers_ok _) (by simp)
      | error error =>
          cases error with
          | malformed issue position =>
              exact iff_of_true (answers_error_iff.mpr ⟨_, rfl⟩) (by simp)
          | tooManyDigits count =>
              exact iff_of_false (by simp [answers_error_iff]) fun h => h count rfl

/-- Asking for an object adds a refusal and no other fault. -/
theorem answers_bind_asObject_iff {e : Except Fault Json} :
    Answers (e.bind (Document.asObject p)) ↔ Answers e := by
  cases e with
  | error fault => exact Iff.rfl
  | ok value =>
      refine iff_of_true ?_ (answers_ok value)
      show Answers (Document.asObject p value)
      rcases asObject_cases p value with ⟨fields, hobject⟩ | hrefused
      · rw [hobject]
        exact answers_ok _
      · rw [hrefused]
        exact answers_error_iff.mpr ⟨_, rfl⟩

/-- A document is given or refused exactly if one can be at its path. -/
theorem answers_loadObject_iff :
    Answers (outcome (Document.loadObject p) t) ↔ CanAnswer t p := by
  rw [outcome_loadObject, outcome_readBytes, CanAnswer]
  cases hread : t.read p with
  | ok bytes =>
      dsimp only
      rw [answers_bind_asObject_iff, answers_ofBytes_iff]
      have hnull : p.hasNull = false := hasNull_of_read hread
      exact ⟨fun h => ⟨hnull, by rintro _ ⟨⟩; exact h⟩, fun h => h.2 bytes rfl⟩
  | error fault =>
      rcases read_error hread with ⟨hnull, rfl⟩ | ⟨hnull, error, rfl⟩
      · dsimp only
        rw [answers_error_iff, hnull]
        exact ⟨nofun, fun h => absurd h.1 (by decide)⟩
      · -- What the storage turns down is refused, and there are no bytes to be legible.
        exact iff_of_true (answers_error_iff.mpr ⟨_, rfl⟩) ⟨hnull, nofun⟩

/-- What is made of a value does not matter. -/
theorem answers_map_iff {α β : Type} (f : α → β) {e : Except Fault α} :
    Answers (e.map f) ↔ Answers e := by
  cases e with
  | ok a => exact iff_of_true (answers_ok _) (answers_ok a)
  | error fault => exact answers_error_iff.trans answers_error_iff.symm

/-- The repair of its texts decides nothing about whether there is an answer. -/
theorem answers_loadCodedObject_iff :
    Answers (outcome (Document.loadCodedObject p) t) ↔ CanAnswer t p := by
  rw [← answers_loadObject_iff, outcome_loadObject_eq_map, answers_map_iff]

end

/-! ### Commands -/

namespace Command

/-- The configuration that a command names. -/
def config? : Command → Option String
  | .sync a => a.config
  | .scan a => a.config
  | .guid _ => none

/-- What a command does, before its refusal is shown. -/
def work (base : Location) : Command → Session CommandOutput
  | .sync a => runSync base a
  | .scan a => runScan base a
  | .guid names => pure (runGuid names)

end Command

/-- The command ends with the exit code for what is refused and one line
that says why, and has changed no file. -/
def EndsRefused (base : Location) (c : Command) (t : FileTree) : Prop :=
  ∃ r : Refusal, (Command.run base c : Session CommandOutput) t =
    .ok ⟨2, [], ["project_sync error: " ++ r.message]⟩ t

/-- A valid document of the kind can be read at the path. -/
def HoldsDocument (t : FileTree) (kind : DocumentKind) (p : Path) : Prop :=
  ∃ value, outcome (Document.loadObject p) t = .ok value ∧ validate kind value = .ok ()

section

variable {t : FileTree} {p : Path} {base : Location} {c : Command} {fault : Fault}
  {text : String}

/-- A run of a command shows its output, or the refusal it ended with; any
other fault goes on to the caller. -/
theorem run_apply (base : Location) (c : Command) (t : FileTree) :
    (Command.run base c : Session CommandOutput) t = match c.work base t with
      | .ok output t' => .ok output t'
      | .error (.refusal r) t' => .ok (.refused [] r) t'
      | .error fault t' => .error fault t' := by
  unfold Command.run
  rw [bind_apply, tryCatch_apply]
  cases c with
  | guid names => rfl
  | sync a =>
      dsimp only [Command.work]
      rw [bind_apply]
      cases (runSync base a : Session CommandOutput) t with
      | ok output t' => rfl
      | error fault t' => cases fault <;> rfl
  | scan a =>
      dsimp only [Command.work]
      rw [bind_apply]
      cases (runScan base a : Session CommandOutput) t with
      | ok output t' => rfl
      | error fault t' => cases fault <;> rfl

/-- A command that has failed shows a refusal, and no other fault. -/
theorem endsRefused_iff (h : c.work base t = .error fault t) :
    EndsRefused base c t ↔ ∃ r, fault = .refusal r := by
  rw [EndsRefused, run_apply, h]
  constructor
  · rintro ⟨r, hrun⟩
    cases fault with
    | refusal other => exact ⟨other, rfl⟩
    | _ => cases hrun
  · rintro ⟨r, rfl⟩
    exact ⟨r, rfl⟩

/-- The configuration is read first, so a fault there is the fault of the
command. -/
theorem work_of_config (hconfig : c.config? = some text)
    (h : (SyncConfig.load base (Path.ofText text) : Session SyncConfig) t = .error fault t) :
    c.work base t = .error fault t := by
  have hload : (loadConfig base (some text) : Session SyncConfig) t = .error fault t := h
  cases c with
  | sync a =>
      replace hconfig : a.config = some text := hconfig
      rw [Command.work, runSync, hconfig, bind_apply, hload]
  | scan a =>
      replace hconfig : a.config = some text := hconfig
      rw [Command.work, runScan, hconfig, bind_apply, hload]
  | guid names => cases hconfig

/-- A configuration is valid with all its codes if it is after their repair. -/
theorem holdsDocument_config_iff :
    HoldsDocument t .config p ↔ ∃ value : Json.Coded,
      outcome (Document.loadCodedObject p) t = .ok value ∧ validate .config value = .ok () := by
  simp only [HoldsDocument, outcome_loadObject_eq_map, validate_config_eq_ok_iff]
  cases outcome (Document.loadCodedObject p) t with
  | ok value => simp [Except.map, isConfiguration_repaired_iff]
  | error fault => simp [Except.map]

/-- Where no valid document can be read, what comes next fails, with a
refusal exactly if there is an answer at the path. -/
theorem fails_of_not_valid {α τ : Type} [DecidableEq τ] [DocumentText τ] {kind : DocumentKind}
    {load : Session (Json τ)} {next : Json τ → Session α} (hreadOnly : ReadOnly load)
    (hanswers : Answers (outcome load t) ↔ CanAnswer t p)
    (hnext : ∀ value fault, validate kind value = .error fault → next value t = .error fault t)
    (h : ¬ ∃ value, outcome load t = .ok value ∧ validate kind value = .ok ()) :
    ∃ fault, (load >>= next) t = .error fault t ∧
      ((∃ r, fault = .refusal r) ↔ CanAnswer t p) := by
  rw [bind_apply, hreadOnly.apply]
  cases hload : outcome load t with
  | error fault =>
      rw [hload, answers_error_iff] at hanswers
      exact ⟨fault, rfl, hanswers⟩
  | ok value =>
      -- An object that is read fails in the check, which always refuses.
      rw [hload] at hanswers
      cases hvalid : validate kind value with
      | ok => exact absurd ⟨value, hload, hvalid⟩ h
      | error fault =>
          obtain ⟨violation, rfl⟩ := validate_error hvalid
          exact ⟨_, hnext _ _ hvalid, iff_of_true ⟨_, rfl⟩ (hanswers.mp (answers_ok value))⟩

/-- A run of `sync` without a valid file of units fails. It fails with a
refusal exactly if the path can be resolved and what can be read there is
legible. -/
theorem work_of_units {a : SyncArguments} {config : SyncConfig}
    (hconfig : outcome (loadConfig base a.config) t = .ok config) (hunits : a.units = some text)
    (h : ∀ place, Path.resolve base (Path.ofText text) = .ok place →
      ¬ HoldsDocument t .units (Path.ofLocation place)) :
    ∃ fault, Command.work base (.sync a) t = .error fault t ∧
      ((∃ r, fault = .refusal r) ↔ ∃ place, Path.resolve base (Path.ofText text) = .ok place ∧
        CanAnswer t (Path.ofLocation place)) := by
  rw [Command.work, runSync,
    bind_of_ok ((readOnly_loadConfig base a.config).eq_ok_iff.mpr ⟨hconfig, rfl⟩), hunits]
  dsimp only
  cases hplace : Path.resolve base (Path.ofText text) with
  | error fault =>
      rw [bind_apply, ofExcept_apply]
      exact ⟨fault, rfl, by simp [resolve_error hplace]⟩
  | ok place =>
      rw [bind_of_ok (ofExcept_eq_ok.mpr ⟨rfl, rfl⟩)]
      simp only [Except.ok.injEq, exists_eq_left']
      refine fails_of_not_valid (readOnly_loadObject _) answers_loadObject_iff
        (fun value fault hvalid => ?_) (h place hplace)
      have hread : Snapshot.ofJson value = .error fault := by
        rw [Snapshot.ofJson, hvalid]
        rfl
      rw [hread]
      rfl

/-- Reading a configuration fails where there is no valid one. The look for
the file comes first, so a path where no file stands is refused before
anything is read. -/
theorem load_of_not_holdsDocument
    (h : ∀ place, Path.resolve base p = .ok place →
      ¬ HoldsDocument t .config (Path.ofLocation place)) :
    ∃ fault, (SyncConfig.load base p : Session SyncConfig) t = .error fault t ∧
      ((∃ r, fault = .refusal r) ↔ ∃ place, Path.resolve base p = .ok place ∧
        (∃ kind, t.kind? (Path.ofLocation place) = .ok kind) ∧
        ∀ bytes, t.read (Path.ofLocation place) = .ok bytes → IsLegible bytes) := by
  rw [SyncConfig.load]
  cases hplace : Path.resolve base p with
  | error fault =>
      rw [bind_apply, ofExcept_apply]
      exact ⟨fault, rfl, by simp [resolve_error hplace]⟩
  | ok place =>
      have hkind : (Storage.kind? (Path.ofLocation place) : Session (Option FileKind)) t =
          look (·.kind? (Path.ofLocation place)) t := rfl
      rw [bind_of_ok (ofExcept_eq_ok.mpr ⟨rfl, rfl⟩), bind_apply, Storage.isFile, bind_apply,
        hkind, look_apply]
      simp only [Except.ok.injEq, exists_eq_left']
      cases hfound : t.kind? (Path.ofLocation place) with
      | error fault =>
          obtain ⟨error, rfl⟩ := kind?_error hfound
          exact ⟨_, rfl, by simp⟩
      | ok kind =>
          by_cases hfile : kind = some .file
          · subst hfile
            -- The schema comes before everything else that could fail.
            have hnext : ∀ (value : Json.Coded) fault, validate .config value = .error fault →
                (MonadExcept.ofExcept
                  (SyncConfig.ofCoded base (Path.ofLocation place).parent value) :
                    Session SyncConfig) t = .error fault t := by
              intro value fault hvalid
              rw [SyncConfig.ofCoded, ConfigRecord.ofJson, hvalid]
              rfl
            obtain ⟨fault, hfails, hanswers⟩ := fails_of_not_valid
              (readOnly_loadCodedObject _) answers_loadCodedObject_iff hnext
              (holdsDocument_config_iff.not.mp (h place hplace))
            refine ⟨fault, hfails, hanswers.trans ?_⟩
            rw [CanAnswer]
            simp [hasNull_of_kind? hfound]
          · -- What is no file is not read, so the question for bytes does not come up.
            have hunread : ∀ bytes, t.read (Path.ofLocation place) ≠ .ok bytes := by
              intro bytes hread
              rw [kind?_of_read hread, Except.ok.injEq] at hfound
              exact hfile hfound.symm
            have hmissing : (kind == some FileKind.file) = false := by simpa using hfile
            simp only [pure_apply, hmissing]
            refine ⟨_, rfl, iff_of_true ⟨_, rfl⟩ ⟨⟨kind, rfl⟩, fun bytes hread => ?_⟩⟩
            exact absurd hread (hunread bytes)

end

/-- What cannot be used as a document is refused in a tree, as far as its
file and its path have an answer. -/
structure RefusesInvalid (t : FileTree) : Prop where
  /-- A document is an object or is refused exactly if its path has no null
  character and its bytes are legible. -/
  document : ∀ p,
    ((∃ fields, (Document.loadObject p : Session Json) t = .ok (.object fields) t) ∨
      ∃ r, (Document.loadObject p : Session Json) t = .error (.refusal r) t) ↔ CanAnswer t p
  /-- Legible are the bytes of every text without too many digits in a row. -/
  legible : ∀ s : String,
    (∀ n, Json.HasDigits (Text.unifyNewlines s.toList) n → n ≤ Json.maxDigits) →
      IsLegible (Text.Utf8.encode s)
  /-- A run of `sync` without a valid file of units ends refused exactly if
  there is an answer at the path of the file. -/
  units : ∀ base (a : SyncArguments) config text,
    outcome (loadConfig base a.config) t = .ok config → a.units = some text →
    (∀ place, Path.resolve base (Path.ofText text) = .ok place →
      ¬ HoldsDocument t .units (Path.ofLocation place)) →
    (EndsRefused base (.sync a) t ↔
      ∃ place, Path.resolve base (Path.ofText text) = .ok place ∧
        CanAnswer t (Path.ofLocation place))
  /-- A command without a valid file for its configuration ends refused
  exactly if the storage says what stands at the path and a file there is
  legible. -/
  config : ∀ base (c : Command) text, c.config? = some text →
    (∀ place, Path.resolve base (Path.ofText text) = .ok place →
      ¬ HoldsDocument t .config (Path.ofLocation place)) →
    (EndsRefused base c t ↔
      ∃ place, Path.resolve base (Path.ofText text) = .ok place ∧
        (∃ kind, t.kind? (Path.ofLocation place) = .ok kind) ∧
        ∀ bytes, t.read (Path.ofLocation place) = .ok bytes → IsLegible bytes)

/-- Documents and commands refuse what is invalid, but not a path with a null
character, bytes that are no text, a number with too many digits, and a path
of a configuration that is too long. -/
theorem refusesInvalid (t : FileTree) : RefusesInvalid t where
  document p := by
    rw [← answers_loadObject_iff, (readOnly_loadObject p).apply]
    cases hload : outcome (Document.loadObject p) t with
    | ok value =>
        obtain ⟨fields, rfl⟩ := object_of_loadObject hload
        exact iff_of_true (Or.inl ⟨fields, rfl⟩) (answers_ok _)
    | error fault => simp [answers_error_iff]
  legible s := isLegible_encode
  units base a config text hconfig htext hinvalid := by
    obtain ⟨fault, hwork, hanswers⟩ := work_of_units hconfig htext hinvalid
    rw [endsRefused_iff hwork, hanswers]
  config base c text hconfig hinvalid := by
    obtain ⟨fault, hload, hanswers⟩ := load_of_not_holdsDocument hinvalid
    rw [endsRefused_iff (work_of_config hconfig hload), hanswers]

/-- A file of units that ends behind a brace is refused: it is a text, with no
number in it, but no JSON. -/
theorem refusesInvalid_cut_document :
    EndsRefused [] (.sync smallArguments) (smallFiles "\x7b") := by
  have hplace : Path.resolve [] (Path.ofText "/units.json") = .ok ["units.json"] := rfl
  have hread : (smallFiles "\x7b").read (Path.ofLocation ["units.json"]) =
      .ok (Text.Utf8.encode "\x7b") := rfl
  have hbytes : Document.ofBytes (Path.ofLocation ["units.json"]) (Text.Utf8.encode "\x7b") =
      .error (.refusal (.malformed "/units.json" .expectingName ⟨1, 2, 1⟩)) := by
    decide +kernel
  refine ((refusesInvalid _).units [] smallArguments {} "/units.json" rfl rfl ?_).mpr
    ⟨["units.json"], hplace, rfl, fun bytes hother => ?_⟩
  · rintro place hother ⟨value, hload, _⟩
    rw [hplace] at hother
    cases hother
    simp only [outcome_loadObject, outcome_readBytes, hread, hbytes] at hload
    cases hload
  · rw [hread] at hother
    cases hother
    rw [← answers_ofBytes_iff, hbytes]
    exact answers_error_iff.mpr ⟨_, rfl⟩

/-- A byte that begins no character is a fault that a document and the run
that needs it pass on. -/
theorem units_not_refused :
    (Document.loadObject ⟨.slash, ["units.json"]⟩ : Session Json)
        (smallTree [(["units.json"], .file [0xff])]) =
      .error (.encoding ⟨0, [0xff], .invalidStart⟩)
        (smallTree [(["units.json"], .file [0xff])]) ∧
    (Command.run [] (.sync smallArguments) : Session CommandOutput)
        (smallTree [(["units.json"], .file [0xff])]) =
      .error (.encoding ⟨0, [0xff], .invalidStart⟩)
        (smallTree [(["units.json"], .file [0xff])]) := by
  constructor
  · rfl
  · rfl

end IdeProjects
