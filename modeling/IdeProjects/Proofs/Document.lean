import IdeProjects.Document
import IdeProjects.Proofs.Json.Coded
import IdeProjects.Proofs.Json.Length
import IdeProjects.Proofs.Library.Scan
import IdeProjects.Proofs.Storage.Places

/-!
# `IdeProjects.Proofs.Document`: documents that are read and written

Reading a document or a configuration changes no file
(`readOnly_loadObject`, `readOnly_load`), and a document is what the bytes
of its file hold (`outcome_loadObject`). Read with all codes of its texts it is
the same document before their repair (`outcome_loadObject_eq_map`), so one is
given or refused as the other is. A document that has been written is
what its file then holds (`read_after_writeDocument`): whatever had to be made
for it on the way, the path leads to the file that was put there. Every value
that was read has a document of its own (`toBytes_of_ofBytes`).
-/

set_option autoImplicit false

namespace IdeProjects

open FileTree

/-! ### A file that is written -/

section

variable {t t' : FileTree} {p : Path} {bytes : List UInt8}

/-- A way that leads to a file leads there also when the file has other
bytes. -/
theorem follow_put_file {d : Location} {old : List UInt8} (hd : d ≠ []) (bytes : List UInt8)
    (parts : List String) :
    ∀ {place : Location}, t.follow place parts = .ok (.node d (.file old)) →
      (t.put d (.file bytes)).follow place parts = .ok (.node d (.file bytes)) := by
  induction parts with
  | nil =>
      intro place h
      simp only [follow] at h ⊢
      split at h
      · cases h
        rw [node?_put t hd, if_pos rfl]
      · cases h
  | cons part rest ih =>
      intro place h
      have hold := node?_of_follow h
      -- A step starts from a directory, which is not at `d`, and meets something
      -- in the one tree where it does in the other.
      have hsame : ∀ q, ((t.put d (.file bytes)).node? q).isNone = (t.node? q).isNone := by
        intro q
        rw [node?_put t hd]
        split <;> simp_all
      cases hplace : t.node? place with
      | none => simp [follow, hplace] at h
      | some x =>
          cases x with
          | file _ => simp [follow, hplace] at h
          | directory =>
              have hne : place ≠ d := by
                rintro rfl
                rw [hold] at hplace
                cases hplace
              have hplace' : (t.put d (.file bytes)).node? place = some .directory := by
                rw [node?_put t hd, if_neg hne, hplace]
              simp only [follow, hplace, hplace', hsame] at h ⊢
              by_cases hup : part = ".."
              · rw [if_pos hup] at h ⊢
                exact ih h
              · rw [if_neg hup] at h ⊢
                split at h
                · cases h
                · split at h
                  · cases h
                  · rename_i hlong hvacant
                    rw [if_neg hlong, if_neg hvacant]
                    exact ih h

/-- A file is written in the place of nothing or of another file, and then
the path leads to it. -/
theorem locate_after_write (h : t.write p bytes = .ok t') :
    ∃ d, d ≠ [] ∧ t.node? d ≠ some .directory ∧ t' = t.put d (.file bytes) ∧
      t'.locate p = .ok (.node d (.file bytes)) := by
  rw [FileTree.write] at h
  split at h
  · rename_i place hvacant
    cases h
    obtain ⟨hplace, hnone, hput⟩ := locate_put_of_vacant hvacant
    exact ⟨place, hplace, by simp [hnone], rfl, hput _⟩
  · rename_i place old hfile
    cases h
    have hold := node?_of_locate hfile
    have hplace : place ≠ [] := by
      rintro rfl
      cases hold
    obtain ⟨hnull, hlong, hwalk⟩ := locate_eq_ok_iff.mp hfile
    have hwalk' := follow_put_file hplace bytes p.parts hwalk
    exact ⟨place, hplace, by simp [hold], rfl, locate_eq_ok_iff.mpr ⟨hnull, hlong, hwalk'⟩⟩
  · cases h
  · cases h

/-- A file that has been written holds the bytes. -/
theorem read_after_write (h : t.write p bytes = .ok t') : t'.read p = .ok bytes := by
  obtain ⟨d, _, _, _, hplace⟩ := locate_after_write h
  rw [FileTree.read, hplace]

/-- A file that a session has written holds the bytes. -/
theorem read_after_storageWrite (h : (Storage.write p bytes : Session Unit) t = .ok () t') :
    t'.read p = .ok bytes := by
  have hchange : Session.change (·.write p bytes) t = .ok () t' := h
  rw [Session.change_apply] at hchange
  split at hchange
  · rename_i hdone
    cases hchange
    exact read_after_write hdone
  · cases hchange

/-- A document is written only of a value that has one. -/
theorem toBytes_eq_ok {value : Json} (h : Document.toBytes value = .ok bytes) :
    value.hasLong = false ∧ bytes = Text.Utf8.encode value.document := by
  rw [Document.toBytes] at h
  split at h
  · cases h
  · rename_i hlong
    cases h
    exact ⟨by simpa using hlong, rfl⟩

/-- A document that has been written is what its file holds. -/
theorem read_after_writeDocument {value : Json}
    (h : (Document.write p value : Session Unit) t = .ok () t') :
    value.hasLong = false ∧ t'.read p = .ok (Text.Utf8.encode value.document) := by
  obtain ⟨_, _, _, hrest⟩ := Session.bind_eq_ok.mp h
  obtain ⟨bytes, _, hbytes, hwrite⟩ := Session.bind_eq_ok.mp hrest
  obtain ⟨hdocument, rfl⟩ := Session.ofExcept_eq_ok.mp hbytes
  obtain ⟨hlong, rfl⟩ := toBytes_eq_ok hdocument
  exact ⟨hlong, read_after_storageWrite hwrite⟩

end

/-! ### Reading -/

/-- Reading the bytes of a document changes no file. -/
theorem readOnly_readBytes (p : Path) :
    Session.ReadOnly (Document.readBytes p : Session (List UInt8)) := by
  refine (Session.readOnly_look _).attempt.bind fun read => ?_
  cases read with
  | ok bytes => exact Session.readOnly_pure bytes
  | error cause => exact Session.readOnly_throw _

/-- Nor does reading a document. -/
theorem readOnly_loadObject (p : Path) :
    Session.ReadOnly (Document.loadObject p : Session Json) := by
  refine Session.ReadOnly.bind ?_ fun _ => Session.readOnly_ofExcept _
  exact (readOnly_readBytes p).bind fun _ => Session.readOnly_ofExcept _

/-- It changes none either with all codes of the texts. -/
theorem readOnly_loadCodedObject (p : Path) :
    Session.ReadOnly (Document.loadCodedObject p : Session Json.Coded) := by
  refine (readOnly_readBytes p).bind fun _ => ?_
  exact (Session.readOnly_ofExcept _).bind fun _ => Session.readOnly_ofExcept _

/-- Reading a configuration looks for its file first, and changes none. -/
theorem readOnly_load (base : Location) (p : Path) :
    Session.ReadOnly (SyncConfig.load base p : Session SyncConfig) := by
  refine (Session.readOnly_ofExcept _).bind fun place => ?_
  refine (readOnly_isFile _).bind fun isThere => ?_
  split
  · exact (readOnly_loadCodedObject _).bind fun _ => Session.readOnly_ofExcept _
  · exact Session.readOnly_throw _

section

open Session

variable {t : FileTree} {p : Path}

/-- The bytes of a document are those of its file. -/
theorem outcome_readBytes (p : Path) (t : FileTree) :
    outcome (Document.readBytes p) t = match t.read p with
      | .ok bytes => .ok bytes
      | .error (.file error) => .error (.refusal (.unreadable p.text error.message))
      | .error fault => .error fault := by
  have hlook : (Storage.read p : Session (List UInt8)) t = look (·.read p) t := rfl
  rw [outcome, Document.readBytes, bind_apply, attempt_apply, hlook, look_apply]
  cases t.read p with
  | ok bytes => rfl
  | error fault => cases fault <;> rfl

/-- A document is what the bytes of its file hold. Nothing is changed on the
way, so only the outcomes of the steps matter. -/
theorem outcome_loadObject (p : Path) (t : FileTree) :
    outcome (Document.loadObject p) t = match outcome (Document.readBytes p) t with
      | .ok bytes => (Document.ofBytes p bytes).bind (Document.asObject p)
      | .error fault => .error fault := by
  have hload : outcome (Document.load p) t = match outcome (Document.readBytes p) t with
      | .ok bytes => Document.ofBytes p bytes
      | .error fault => .error fault := by
    rw [Document.load, (readOnly_readBytes p).outcome_bind]
    cases outcome (Document.readBytes p) t with
    | ok bytes => exact outcome_ofExcept _ _
    | error fault => rfl
  have hreadOnly : ReadOnly (Document.load p) :=
    (readOnly_readBytes p).bind fun _ => readOnly_ofExcept _
  rw [Document.loadObject, hreadOnly.outcome_bind, hload]
  simp only [outcome_ofExcept]
  cases outcome (Document.readBytes p) t with
  | ok bytes =>
      dsimp only
      cases Document.ofBytes p bytes <;> rfl
  | error fault => rfl

/-- With all codes of its texts a document is what the bytes of its file hold. -/
theorem outcome_loadCodedObject (p : Path) (t : FileTree) :
    outcome (Document.loadCodedObject p) t = match outcome (Document.readBytes p) t with
      | .ok bytes => (Document.codedOfBytes p bytes).bind (Document.asObject p)
      | .error fault => .error fault := by
  rw [Document.loadCodedObject, (readOnly_readBytes p).outcome_bind]
  cases outcome (Document.readBytes p) t with
  | ok bytes =>
      dsimp only
      rw [(readOnly_ofExcept _).outcome_bind, outcome_ofExcept]
      cases Document.codedOfBytes p bytes with
      | ok value => exact outcome_ofExcept _ _
      | error fault => rfl
  | error fault => rfl

/-- The repair of a value leaves objects objects. -/
theorem asObject_repaired (p : Path) (value : Json.Coded) :
    Document.asObject p value.repaired = (Document.asObject p value).map Json.repaired := by
  cases value <;> rfl

/-- A document is the one with all codes, repaired. -/
theorem outcome_loadObject_eq_map (p : Path) (t : FileTree) :
    outcome (Document.loadObject p) t =
      (outcome (Document.loadCodedObject p) t).map Json.repaired := by
  rw [outcome_loadObject, outcome_loadCodedObject]
  cases outcome (Document.readBytes p) t with
  | ok bytes =>
      dsimp only
      rw [Document.ofBytes]
      cases Document.codedOfBytes p bytes with
      | ok value => exact asObject_repaired p value
      | error fault => rfl
  | error fault => rfl

/-- The value that bytes hold is what the reader gives for their characters. -/
theorem ofBytes_eq (p : Path) (bytes : List UInt8) :
    Document.ofBytes p bytes = match Text.Utf8.decode bytes with
      | .error malformed => .error (.encoding malformed)
      | .ok chars =>
        match Json.read (Text.unifyNewlines chars) with
        | .ok value => .ok value
        | .error (.malformed issue position) =>
          .error (.refusal (.malformed p.text issue position))
        | .error (.tooManyDigits count) => .error (.tooManyDigits (some count)) := by
  rw [Document.ofBytes, Document.codedOfBytes]
  cases Text.Utf8.decode bytes with
  | error malformed => rfl
  | ok chars =>
      dsimp only [Json.read]
      cases Json.readCoded (Text.unifyNewlines chars) with
      | ok value => rfl
      | error error => cases error <;> rfl

/-- A value that was read can be written: the reader has refused the numbers
that are too long for a document. -/
theorem toBytes_of_ofBytes {p : Path} {bytes : List UInt8} {value : Json}
    (h : Document.ofBytes p bytes = .ok value) :
    Document.toBytes value = .ok (Text.Utf8.encode value.document) := by
  have hlong : value.hasLong = false := by
    rw [ofBytes_eq] at h
    split at h
    · cases h
    · split at h
      · rename_i hread
        cases h
        exact Json.hasLong_of_read hread
      · cases h
      · cases h
  rw [Document.toBytes, hlong]
  rfl

/-- Whatever is no object is refused. -/
theorem asObject_cases (p : Path) (value : Json) :
    (∃ fields, Document.asObject p value = .ok (.object fields)) ∨
      Document.asObject p value = .error (.refusal (.rootNotObject p.text)) := by
  cases value with
  | object fields => exact Or.inl ⟨fields, rfl⟩
  | _ => exact Or.inr rfl

/-- What is given as a document is an object, for any other value is refused
last of all. -/
theorem object_of_loadObject {value : Json}
    (h : outcome (Document.loadObject p) t = .ok value) : ∃ fields, value = .object fields := by
  rw [outcome_loadObject] at h
  split at h
  · rename_i bytes _
    cases hvalue : Document.ofBytes p bytes with
    | error fault =>
        rw [hvalue] at h
        cases h
    | ok inner =>
        rw [hvalue] at h
        replace h : Document.asObject p inner = .ok value := h
        rcases asObject_cases p inner with ⟨fields, hobject⟩ | hrefused
        · rw [hobject] at h
          cases h
          exact ⟨fields, rfl⟩
        · rw [hrefused] at h
          cases h
  · cases h

/-- A document in a file that can be read. -/
theorem loadObject_of_read {bytes : List UInt8} {fields : List (String × Json)}
    (hread : t.read p = .ok bytes)
    (hvalue : Document.ofBytes p bytes = .ok (.object fields)) :
    outcome (Document.loadObject p) t = .ok (.object fields) := by
  rw [outcome_loadObject, outcome_readBytes, hread]
  dsimp only
  rw [hvalue]
  rfl

end

end IdeProjects
