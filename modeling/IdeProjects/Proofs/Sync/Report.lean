import IdeProjects.Proofs.Document
import IdeProjects.Proofs.Json.Ascii
import IdeProjects.Proofs.Text.Utf8
import IdeProjects.Sync.Result

/-!
# `IdeProjects.Proofs.Sync.Report`: the report of a run can be read back

The report is the only document that the tool writes. It shows texts of any
kind: paths, names of units and what went wrong with a file. All of them come
through its document (`load_after_write`): the bytes are ASCII, the reader
changes no line break in them, and what they are read as differs from the
report in the order of the fields at most (`SyncResult.report_readsBack`).

A document is refused where a whole number is too long, and the same numbers
are never written. So nothing is asked of the positions in a report beyond
that it could be written.
-/

set_option autoImplicit false

namespace IdeProjects

open FileTree

/-! ### Documents in files -/

section

variable {value : Json} {p : Path}

/-- A document holds the value that it was written of. -/
theorem ofBytes_document (h : Json.Exact value) (p : Path) :
    Document.ofBytes p (Text.Utf8.encode value.document) = .ok value.sorted := by
  have hdecode : Text.Utf8.decode (Text.Utf8.encode value.document) =
      .ok value.document.toList := by
    rw [Text.Utf8.decode_eq_ok_iff, String.ofList_toList]
  have hreturn : '\r' ∉ value.document.toList := fun hmem =>
    absurd (Json.isPlain_document h _ hmem) (by decide)
  rw [ofBytes_eq, hdecode]
  dsimp only
  rw [Text.unifyNewlines_eq_self hreturn, Json.read_document h]

/-- The bytes of a document are ASCII. -/
theorem encode_document_lt (h : Json.Exact value) :
    ∀ b ∈ Text.Utf8.encode value.document, b.toNat < 0x80 := by
  refine Text.Utf8.encode_lt fun c hc => ?_
  rcases Json.isPlain_document h c hc with rfl | hprintable
  · decide
  · omega

/-- An object that has been written is read back from its file. -/
theorem load_after_write {fields : List (String × Json)} {t t' : FileTree}
    (h : Json.Exact (.object fields))
    (hwrite : (Document.write p (.object fields) : Session Unit) t = .ok () t') :
    (Document.loadObject p : Session Json) t' = .ok (Json.object fields).sorted t' := by
  have hread := (read_after_writeDocument hwrite).2
  have hbytes := ofBytes_document h p
  rw [Json.sorted] at hbytes ⊢
  exact (readOnly_loadObject p).eq_ok_iff.mpr ⟨loadObject_of_read hread hbytes, rfl⟩

end

/-! ### Reports -/

namespace SkippedUnit

/-- A skipped entry comes through a document if its position is not too long
for one. -/
theorem exact_toJson {s : SkippedUnit} (h : Json.isLong s.index = false) :
    Json.Exact s.toJson := by
  have hnames : ["index", "reason"].Nodup := by decide
  refine .object hnames ?_
  simp only [List.forall_mem_cons]
  exact ⟨.integer h, .text s.reason, nofun⟩

/-- The two fields stand in order. -/
theorem sorted_toJson (s : SkippedUnit) : s.toJson.sorted = s.toJson := by
  have hle : "index" ≤ "reason" := by decide
  refine Json.sorted_object ?_ ?_
  · simp only [List.forall_mem_cons]
    exact ⟨rfl, rfl, nofun⟩
  · simp [hle]

end SkippedUnit

namespace SyncResult

/-- The fields of a report have different names. -/
theorem nodup_names (r : SyncResult) : (r.report.fields.map (·.1)).Nodup := by
  have hnames : ["tool", "status", "written", "unchanged", "drift", "would_write", "warnings",
      "skipped_units", "failures"].Nodup := by decide
  exact hnames

/-- A report that can be written gives back what it is made of. Texts always
do; of the numbers in it the positions of skipped units are the only ones, and
a writer that did not stop had no long one among them. -/
theorem exact_report {r : SyncResult} (h : r.report.hasLong = false) : Json.Exact r.report := by
  have hfields : ∀ f ∈ r.report.fields, f.2.hasLong = false :=
    Json.fieldsHaveLong_eq_false_iff.mp h
  -- The positions of the units that were left out are the only numbers in a report.
  have hskipped : ∀ s ∈ r.skipped, Json.isLong s.index = false := by
    have hitems := hfields ("skipped_units", .array (r.skipped.map SkippedUnit.toJson))
      (by simp [report, Json.fields])
    rw [Json.hasLong, Json.itemsHaveLong_eq_false_iff, List.forall_mem_map] at hitems
    intro s hs
    have hposition := hitems s hs
    rw [SkippedUnit.toJson, Json.hasLong, Json.fieldsHaveLong_eq_false_iff] at hposition
    exact hposition _ List.mem_cons_self
  have htool : ["name", "version"].Nodup := by decide
  refine .object r.nodup_names ?_
  simp only [List.forall_mem_cons]
  refine ⟨.object htool ?_, .text _, Json.exact_ofTexts _, Json.exact_ofTexts _,
    Json.exact_ofTexts _, Json.exact_ofTexts _, Json.exact_ofTexts _, .array ?_,
    Json.exact_ofTexts _, nofun⟩
  · simp only [List.forall_mem_cons]
    exact ⟨.text _, .text _, nofun⟩
  · rw [List.forall_mem_map]
    exact fun s hs => SkippedUnit.exact_toJson (hskipped s hs)

/-- Only the fields of the report itself change their places when the report
is sorted. The objects inside it are written with their fields in order to
start with. -/
theorem sameObject_sorted_report (r : SyncResult) : Json.SameObject r.report.sorted r.report := by
  have htool : (Json.object [("name", .text toolName), ("version", .text toolVersion)]).sorted =
      .object [("name", .text toolName), ("version", .text toolVersion)] := by
    have hle : "name" ≤ "version" := by decide
    refine Json.sorted_object ?_ (by simp [hle])
    simp only [List.forall_mem_cons]
    exact ⟨rfl, rfl, nofun⟩
  have hskipped : (Json.array (r.skipped.map SkippedUnit.toJson)).sorted =
      .array (r.skipped.map SkippedUnit.toJson) := by
    rw [Json.sorted, Json.sortedItems_eq_map, List.map_map]
    exact congrArg Json.array (List.map_congr_left fun s _ => s.sorted_toJson)
  have hfields : Json.sortedFields r.report.fields = r.report.fields := by
    simp only [Json.sortedFields_eq_map, report, Json.fields, List.map_cons, List.map_nil, htool,
      hskipped, Json.sorted_ofTexts]
    rfl
  have hsorted : r.report.sorted = .object
      ((Json.sortedFields r.report.fields).mergeSort fun a b => a.1 ≤ b.1) := by
    rw [report, Json.sorted]
    rfl
  refine ⟨_, r.report.fields, hsorted, rfl, ?_, r.nodup_names⟩
  rw [hfields]
  exact List.mergeSort_perm _ _

/-- A report that has been written is read back: the object is the same, and
reading it changes no file. The bytes in the file are ASCII, whatever the
texts in the report hold. -/
theorem report_readsBack {r : SyncResult} {p : Path} {t t' : FileTree}
    (h : (Document.write p r.report : Session Unit) t = .ok () t') :
    (∃ value, (Document.loadObject p : Session Json) t' = .ok value t' ∧
      Json.SameObject value r.report ∧ ∀ name, value.field? name = r.report.field? name) ∧
    ∃ bytes, t'.read p = .ok bytes ∧ ∀ b ∈ bytes, b.toNat < 0x80 := by
  obtain ⟨hlong, hread⟩ := read_after_writeDocument h
  have hexact := exact_report hlong
  have hsame := r.sameObject_sorted_report
  exact ⟨⟨_, load_after_write hexact h, hsame, hsame.field?_eq⟩, _, hread,
    encode_document_lt hexact⟩

/-- Quotes, backslashes, line breaks of every kind, a character that stands
for nothing and one outside the basic plane; the report goes to a directory
that has to be made. -/
theorem report_readsBack_escapes :
    let r : SyncResult := {
      files := [⟨⟨.slash, ["out", "a\"b\\.csproj"]⟩, .written, some "a\"b\\"⟩]
      warnings := ["\x00\x7f", "\r\n\u2028", "é\uffff😀"]
      skipped := [⟨10, "unit has no name"⟩]
      failures := [⟨⟨.slash, ["out", "\t.sln"]⟩, "[Errno 21] Is a directory", none⟩] }
    let p : Path := ⟨.slash, ["out", "report.json"]⟩
    ∃ t', (Document.write p r.report : Session Unit) ⟨[], []⟩ = .ok () t' ∧
      (∃ value, (Document.loadObject p : Session Json) t' = .ok value t' ∧
        Json.SameObject value r.report ∧ ∀ name, value.field? name = r.report.field? name) ∧
      ∃ bytes, t'.read p = .ok bytes ∧ ∀ b ∈ bytes, b.toNat < 0x80 := by
  intro r p
  have hwrite : ∃ t', (Document.write p r.report : Session Unit) ⟨[], []⟩ = .ok () t' := ⟨_, rfl⟩
  obtain ⟨t', hwrite⟩ := hwrite
  exact ⟨t', hwrite, report_readsBack hwrite⟩

end SyncResult

end IdeProjects
