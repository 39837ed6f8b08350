import IdeProjects.Proofs.Json.Coded
import IdeProjects.Proofs.Json.Number
import IdeProjects.Proofs.Json.Text

/-!
# `IdeProjects.Proofs.Json.RoundTrip`: a document is read as the value it shows

The reader is run on what the writer writes. A value is read from the front of
a longer text, so what is shown of it (`ReadsBack`) holds whatever follows,
with as much fuel as the value has characters. The reader gives all codes of a
text, so what it finds is the value `coded`. Lists and objects take their
parts one after the other; the names of an object must differ, for the reader
sets a field that it meets again in its old place.

`Exact` are the values that come through: numbers with a fraction are left
out, and so are whole numbers that no document may hold. The induction over
them is `Exact.readsBack`, and `read_document` the result: the value with its
names in order, which is the same object (`SameObject`).
-/

set_option autoImplicit false

namespace IdeProjects

namespace Json

/-- A value that its document gives back: no number with a fraction, no whole
number that is too long, and no name twice in an object. -/
inductive Exact : Json → Prop
  | null : Exact .null
  | bool (b : Bool) : Exact (.bool b)
  | integer {n : Int} (hlong : isLong n = false) : Exact (.integer n)
  | text (s : String) : Exact (.text s)
  | array {items : List Json} (hitems : ∀ item ∈ items, Exact item) : Exact (.array items)
  | object {fields : List (String × Json)} (hnames : (fields.map (·.1)).Nodup)
      (hfields : ∀ f ∈ fields, Exact f.2) : Exact (.object fields)

/-- A list of texts comes through, whatever the texts are. -/
theorem exact_ofTexts (texts : List String) : Exact (.ofTexts texts) := by
  refine .array fun item hitem => ?_
  obtain ⟨s, _, rfl⟩ := List.mem_map.mp hitem
  exact .text s

/-! ### White space -/

/-- A character that a value can start with. -/
def OpensValue (c : Char) : Prop :=
  c.isDigit = true ∨ c ∈ ['"', '[', '\x7b', '-', 'n', 't', 'f']

instance (c : Char) : Decidable (OpensValue c) := inferInstanceAs (Decidable (_ ∨ _))

/-- No value starts with white space. -/
theorem OpensValue.isSpace_eq_false {c : Char} (h : OpensValue c) : isSpace c = false := by
  rcases h with hdigit | hmem
  · by_contra hspace
    simp only [isSpace, Bool.not_eq_false, Bool.or_eq_true, beq_iff_eq] at hspace
    rcases hspace with ((rfl | rfl) | rfl) | rfl <;> cases hdigit
  · simp only [List.mem_cons, List.not_mem_nil, or_false] at hmem
    rcases hmem with rfl | rfl | rfl | rfl | rfl | rfl | rfl <;> rfl

/-- A value starts with none of the characters that close, or that mark the
order of bytes. -/
theorem OpensValue.ne {c d : Char} (h : OpensValue c) (hd : ¬ OpensValue d) : c ≠ d := by
  rintro rfl
  exact hd h

/-- Skipping stops at once before a character that is no space. -/
theorem skipSpace_cons {c : Char} (h : isSpace c = false) (cs : List Char) :
    skipSpace (c :: cs) = c :: cs := by
  simp [skipSpace, h]

/-- Nothing is skipped before a text. -/
theorem skipSpace_writeText (s : String) (rest : List Char) :
    skipSpace (writeText s ++ rest) = writeText s ++ rest :=
  skipSpace_cons (by rfl) _

/-- A line break and the blanks after it are skipped. -/
theorem skipSpace_newLine (level : Nat) (cs : List Char) :
    skipSpace (newLine level ++ cs) = skipSpace cs := by
  have hall : ∀ c ∈ newLine level, isSpace c = true := by
    intro c hc
    rcases List.mem_cons.mp hc with rfl | hblank
    · rfl
    · rw [(List.mem_replicate.mp hblank).2]
      rfl
  exact List.dropWhile_append_of_pos hall

/-! ### Values that are read back -/

/-- What is written of a value is read as its codes, whatever follows. -/
structure ReadsBack (value : Json) : Prop where
  first : ∀ level, ∃ c cs, writeIndented level value = c :: cs ∧ OpensValue c
  read : ∀ (level fuel : Nat) (rest : List Char), (writeIndented level value).length ≤ fuel →
    EndsNumber rest →
    readValue fuel (writeIndented level value ++ rest) = .ok (value.coded, rest)

namespace ReadsBack

variable {value : Json}

/-- Nothing is skipped before a value. -/
theorem skipSpace_eq (h : ReadsBack value) (level : Nat) (rest : List Char) :
    skipSpace (writeIndented level value ++ rest) = writeIndented level value ++ rest := by
  obtain ⟨c, cs, hfirst, hopens⟩ := h.first level
  rw [hfirst, List.cons_append, skipSpace_cons hopens.isSpace_eq_false]

/-- A value is not written as nothing. -/
theorem length_pos (h : ReadsBack value) (level : Nat) :
    0 < (writeIndented level value).length := by
  obtain ⟨c, cs, hfirst, _⟩ := h.first level
  simp [hfirst]

/-- A value is not written as nothing, so reading it takes a step. -/
theorem of_step (hfirst : ∀ level, ∃ c cs, writeIndented level value = c :: cs ∧ OpensValue c)
    (hread : ∀ (level fuel : Nat) (rest : List Char),
      (writeIndented level value).length ≤ fuel + 1 → EndsNumber rest →
      readValue (fuel + 1) (writeIndented level value ++ rest) = .ok (value.coded, rest)) :
    ReadsBack value where
  first := hfirst
  read level fuel rest hfuel hends := by
    cases fuel with
    | zero =>
        obtain ⟨c, cs, hcs, _⟩ := hfirst level
        simp [hcs] at hfuel
    | succ fuel => exact hread level fuel rest hfuel hends

end ReadsBack

/-- The comma behind an item ends a number. -/
theorem endsNumber_comma (cs : List Char) : EndsNumber (',' :: cs) := by
  rintro c ⟨⟩
  decide

/-- So does the line break before a closing bracket. -/
theorem endsNumber_newLine (level : Nat) (cs : List Char) : EndsNumber (newLine level ++ cs) := by
  rintro c ⟨⟩
  decide

/-! ### Lists -/

/-- Items are read back up to the bracket that closes their list, by induction
on them. Each has a character at least, so the fuel lasts for the others. -/
theorem readItems_written {item : Json} {items : List Json} {level fuel : Nat}
    (hitem : ReadsBack item) (hitems : ∀ x ∈ items, ReadsBack x)
    (hfuel : (writeIndented level item ++ moreItems level items).length < fuel)
    (outer : Nat) (left : List Char) :
    readItems fuel (writeIndented level item ++
      (moreItems level items ++ (newLine outer ++ ']' :: left))) =
        .ok ((item :: items).map coded, left) := by
  -- On the items behind the first. The comma or the line feed that comes
  -- next ends the number that an item may be.
  induction items generalizing item fuel with
  | nil =>
      cases fuel with
      | zero => simp at hfuel
      | succ fuel =>
          simp only [moreItems, List.nil_append, List.append_nil] at hfuel ⊢
          rw [readItems, hitem.read level fuel _ (by omega) (endsNumber_newLine _ _)]
          simp only [skipSpace_newLine, skipSpace_cons (by rfl : isSpace ']' = false)]
          rfl
  | cons next items ih =>
      obtain ⟨hnext, hothers⟩ := List.forall_mem_cons.mp hitems
      cases fuel with
      | zero => simp at hfuel
      | succ fuel =>
          have hlength := hitem.length_pos level
          simp only [moreItems, List.length_append, List.length_cons, List.cons_append,
            List.append_assoc] at hfuel ⊢
          rw [readItems, hitem.read level fuel _ (by omega) (endsNumber_comma _)]
          simp only [skipSpace_cons (by rfl : isSpace ',' = false), skipSpace_newLine,
            hnext.skipSpace_eq]
          rw [ih hnext hothers (by rw [List.length_append]; omega)]
          rfl

/-! ### Objects -/

/-- A field with a new name comes last. -/
theorem setField_of_not_mem {τ : Type} [DecidableEq τ] {name : τ} {fields : List (τ × Json τ)}
    (h : name ∉ fields.map (·.1)) (value : Json τ) :
    setField name value fields = fields ++ [(name, value)] := by
  induction fields with
  | nil => rfl
  | cons f rest ih =>
      simp only [List.map_cons, List.mem_cons, not_or] at h
      rw [setField, if_neg (Ne.symm h.1), ih h.2, List.cons_append]

/-- If the names of an object differ, the name of a field is none of the
earlier ones. -/
theorem not_mem_of_nodup_names {name : String} {value : Json} {earlier later : List (String × Json)}
    (h : ((earlier ++ (name, value) :: later).map (·.1)).Nodup) : name ∉ earlier.map (·.1) := by
  rw [List.map_append, List.map_cons, List.nodup_append] at h
  exact fun hmem => h.2.2 name hmem name List.mem_cons_self rfl

/-- A field with a new name comes last also among the codes of the others. -/
theorem setField_codedFields {name : String} {fields : List (String × Json)}
    (h : name ∉ fields.map (·.1)) (value : Json) :
    setField (.ofString name) value.coded (codedFields fields) =
      codedFields (fields ++ [(name, value)]) := by
  have hnew : CodeText.ofString name ∉ (codedFields fields).map (·.1) := by
    rw [codedFields, List.map_map]
    intro hmem
    obtain ⟨field, hfield, hsame⟩ := List.mem_map.mp hmem
    exact h (List.mem_map.mpr ⟨field, hfield, CodeText.ofString_injective hsame⟩)
  rw [setField_of_not_mem hnew, codedFields, codedFields, List.map_append]
  rfl

/-- What is read behind the value of a field. -/
def readBehindField (fuel : Nat) (fields : List (CodeText × Coded)) (tail : List Char) :
    Step (List (CodeText × Coded)) :=
  match skipSpace tail with
  | '\x7d' :: left => .ok (fields, left)
  | ',' :: left => readFields fuel fields (skipSpace left)
  | left => .error (.issue .expectingComma left)

/-- A name is read up to its colon, and then its value. -/
theorem readFields_field {name : String} {value : Json} {level fuel : Nat}
    {earlier : List (CodeText × Coded)} {tail : List Char} (hvalue : ReadsBack value)
    (hfuel : (writeIndented level value).length ≤ fuel) (hends : EndsNumber tail) :
    readFields (fuel + 1) earlier
        (writeText name ++ ':' :: ' ' :: (writeIndented level value ++ tail)) =
      readBehindField fuel (setField (.ofString name) value.coded earlier) tail := by
  have hblank : skipSpace (' ' :: (writeIndented level value ++ tail)) =
      writeIndented level value ++ tail := hvalue.skipSpace_eq level tail
  rw [writeText, List.append_assoc, List.cons_append, List.cons_append, List.nil_append,
    readFields]
  simp only [readText_writeText, skipSpace_cons (by rfl : isSpace ':' = false), hblank,
    hvalue.read level fuel tail hfuel hends]
  rfl

/-- Fields are read back behind those that were read before, up to the
bracket that closes their object. -/
theorem readFields_written {name : String} {value : Json} {fields earlier : List (String × Json)}
    {level fuel : Nat} (hvalue : ReadsBack value) (hfields : ∀ f ∈ fields, ReadsBack f.2)
    (hnames : ((earlier ++ (name, value) :: fields).map (·.1)).Nodup)
    (hfuel : (writeIndented level value ++ moreFields level fields).length < fuel)
    (outer : Nat) (left : List Char) :
    readFields fuel (codedFields earlier) (writeText name ++ ':' :: ' ' ::
      (writeIndented level value ++ (moreFields level fields ++
        (newLine outer ++ '\x7d' :: left)))) =
      .ok (codedFields (earlier ++ (name, value) :: fields), left) := by
  -- On the fields behind the first; `earlier` collects what was read.
  induction fields generalizing name value earlier fuel with
  | nil =>
      cases fuel with
      | zero => simp at hfuel
      | succ fuel =>
          have hnew := not_mem_of_nodup_names hnames
          simp only [moreFields, List.nil_append, List.append_nil] at hfuel ⊢
          rw [readFields_field hvalue (by omega) (endsNumber_newLine _ _), readBehindField]
          simp only [skipSpace_newLine, skipSpace_cons (by rfl : isSpace '\x7d' = false),
            setField_codedFields hnew]
  | cons next fields ih =>
      obtain ⟨nextName, nextValue⟩ := next
      obtain ⟨hnext, hothers⟩ := List.forall_mem_cons.mp hfields
      replace hnext : ReadsBack nextValue := hnext
      cases fuel with
      | zero => simp at hfuel
      | succ fuel =>
          have hnew := not_mem_of_nodup_names hnames
          have hnames' : (((earlier ++ [(name, value)]) ++
              (nextName, nextValue) :: fields).map (·.1)).Nodup := by
            simpa using hnames
          have hlength := hvalue.length_pos level
          simp only [moreFields, List.length_append, List.length_cons, List.cons_append,
            List.append_assoc] at hfuel ⊢
          rw [readFields_field hvalue (by omega) (endsNumber_comma _), readBehindField]
          simp only [skipSpace_cons (by rfl : isSpace ',' = false), skipSpace_newLine,
            skipSpace_writeText, setField_codedFields hnew]
          rw [ih hnext hothers hnames' (by rw [List.length_append]; omega)]
          simp

/-! ### Numbers -/

/-- A text that starts like a number: with a digit, or with a sign before
one. -/
def OpensNumber (cs : List Char) : Prop :=
  ∃ d ds, d.isDigit = true ∧ (cs = d :: ds ∨ cs = '-' :: d :: ds)

/-- What starts like a number is read as one: no word does. -/
theorem readValue_of_opensNumber {cs : List Char} (h : OpensNumber cs) (fuel : Nat) :
    readValue (fuel + 1) cs = readNumber cs := by
  obtain ⟨d, ds, hdigit, hcs⟩ := h
  have hother : ∀ c ∈ ['"', '[', '\x7b', 'n', 't', 'f', 'N', 'I', '-'], c ≠ d := by
    rintro c hc rfl
    simp only [List.mem_cons, List.not_mem_nil, or_false] at hc
    rcases hc with rfl | rfl | rfl | rfl | rfl | rfl | rfl | rfl | rfl <;> cases hdigit
  simp only [List.forall_mem_cons, ne_eq] at hother
  have hword : readWord? cs = none := by
    rcases hcs with rfl | rfl <;> simp [readWord?, words, hother]
  rcases hcs with rfl | rfl
  · rw [readValue, hword]
    all_goals simp [Ne.symm, hother]
  · rw [readValue, hword]
    all_goals simp

/-- Whatever follows it, a text still starts like a number. -/
theorem OpensNumber.append {cs : List Char} (h : OpensNumber cs) (rest : List Char) :
    OpensNumber (cs ++ rest) := by
  obtain ⟨d, ds, hdigit, rfl | rfl⟩ := h
  · exact ⟨d, ds ++ rest, hdigit, Or.inl rfl⟩
  · exact ⟨d, ds ++ rest, hdigit, Or.inr rfl⟩

/-- A whole number is written with a digit in front, or with a sign and a
digit. -/
theorem opensNumber_toString (n : Int) : OpensNumber (toString n).toList := by
  obtain ⟨d, ds, hds⟩ := List.exists_cons_of_ne_nil
    (Nat.toDigits_ne_nil (n := n.natAbs) (b := 10))
  have hdigit : d.isDigit = true :=
    Nat.isDigit_of_mem_toDigits (b := 10) (n := n.natAbs) (by decide) (by decide) (by simp [hds])
  refine ⟨d, ds, hdigit, ?_⟩
  rw [toList_toString, hds]
  split
  · exact Or.inl rfl
  · exact Or.inr rfl

/-! ### All values -/

/-- A whole number is read back, unless it is too long for a document. -/
theorem readsBack_integer {n : Int} (hlong : isLong n = false) : ReadsBack (.integer n) := by
  have hwritten : ∀ level, writeIndented level (.integer n) = (toString n).toList := fun _ => rfl
  have hopens := opensNumber_toString n
  refine .of_step (fun level => ?_) fun level fuel rest _ hends => ?_
  · rw [hwritten]
    obtain ⟨d, ds, hdigit, hfirst | hfirst⟩ := hopens
    · exact ⟨d, ds, hfirst, Or.inl hdigit⟩
    · exact ⟨'-', d :: ds, hfirst, by decide⟩
  · rw [hwritten, readValue_of_opensNumber (hopens.append rest)]
    exact readNumber_toString hlong hends

/-- Every text is read back: its escapes give its own codes. -/
theorem readsBack_text (s : String) : ReadsBack (.text s) := by
  refine .of_step (fun _ => ⟨'"', _, rfl, by decide⟩) fun level fuel rest _ _ => ?_
  have hwritten : writeIndented level (.text s) ++ rest =
      '"' :: (s.toList.flatMap writeChar ++ '"' :: rest) := by
    simp [writeIndented, writeScalar, writeText]
  rw [hwritten, readValue, readText_writeText]
  rfl

/-- A list is read back with its items. A list that is not empty is told from
an empty one by its first character. -/
theorem readsBack_array {items : List Json} (h : ∀ item ∈ items, ReadsBack item) :
    ReadsBack (.array items) := by
  cases items with
  | nil => exact .of_step (fun _ => ⟨'[', _, rfl, by decide⟩) fun _ _ _ _ _ => rfl
  | cons item items =>
      obtain ⟨hitem, hitems⟩ := List.forall_mem_cons.mp h
      refine .of_step (fun level => ⟨'[', _, by rw [writeIndented]; rfl, by decide⟩)
        fun level fuel rest hfuel _ => ?_
      simp only [writeIndented, List.length_append, List.length_cons, List.cons_append,
        List.nil_append, List.append_assoc] at hfuel ⊢
      have hlength : (writeIndented (level + 1) item ++ moreItems (level + 1) items).length <
          fuel := by
        rw [List.length_append]
        omega
      rw [readValue, skipSpace_newLine, hitem.skipSpace_eq]
      split
      · -- The list is not empty: its first item does not start with the bracket.
        rename_i left hclosed
        obtain ⟨c, cs, hfirst, hopens⟩ := hitem.first (level + 1)
        rw [hfirst, List.cons_append, List.cons.injEq] at hclosed
        exact absurd hclosed.1 (hopens.ne (by decide))
      · rw [readItems_written hitem hitems hlength, coded_array]
        rfl

/-- An object is read back with its fields, when no name is repeated. A name
that came again would be set in its old place. -/
theorem readsBack_object {fields : List (String × Json)} (hnames : (fields.map (·.1)).Nodup)
    (h : ∀ f ∈ fields, ReadsBack f.2) : ReadsBack (.object fields) := by
  match fields with
  | [] => exact .of_step (fun _ => ⟨'\x7b', _, rfl, by decide⟩) fun _ _ _ _ _ => rfl
  | (name, value) :: fields =>
      obtain ⟨hvalue, hfields⟩ := List.forall_mem_cons.mp h
      replace hvalue : ReadsBack value := hvalue
      refine .of_step (fun level => ⟨'\x7b', _, by rw [writeIndented]; rfl, by decide⟩)
        fun level fuel rest hfuel _ => ?_
      simp only [writeIndented, List.length_append, List.length_cons, List.cons_append,
        List.nil_append, List.append_assoc] at hfuel ⊢
      have hlength : (writeIndented (level + 1) value ++ moreFields (level + 1) fields).length <
          fuel := by
        rw [List.length_append]
        omega
      rw [readValue, skipSpace_newLine, skipSpace_writeText]
      split
      · rename_i left hclosed
        cases hclosed
      · have hread := @readFields_written name value fields [] (level + 1) fuel hvalue hfields hnames
          hlength level rest
        rw [codedFields, List.map_nil, List.nil_append] at hread
        rw [hread, coded_object]
        rfl

/-- Whatever gives back what it is made of is read back. -/
theorem Exact.readsBack {value : Json} (h : Exact value) : ReadsBack value := by
  induction h with
  | null => exact .of_step (fun _ => ⟨'n', _, rfl, by decide⟩) fun _ _ _ _ _ => rfl
  | bool b =>
      cases b with
      | true => exact .of_step (fun _ => ⟨'t', _, rfl, by decide⟩) fun _ _ _ _ _ => rfl
      | false => exact .of_step (fun _ => ⟨'f', _, rfl, by decide⟩) fun _ _ _ _ _ => rfl
  | integer hlong => exact readsBack_integer hlong
  | text s => exact readsBack_text s
  | array _ ih => exact readsBack_array ih
  | object hnames _ ih => exact readsBack_object hnames ih

/-! ### The order of names -/

/-- Sorting a list sorts each of its items. -/
theorem sortedItems_eq_map (items : List Json) : sortedItems items = items.map sorted := by
  induction items with
  | nil => rfl
  | cons item rest ih => rw [sortedItems, ih, List.map_cons]

/-- Sorting fields sorts the value of each. -/
theorem sortedFields_eq_map (fields : List (String × Json)) :
    sortedFields fields = fields.map fun f => (f.1, f.2.sorted) := by
  induction fields with
  | nil => rfl
  | cons f rest ih => rw [sortedFields, ih, List.map_cons]

/-- The names of an object do not change with their order. -/
theorem map_fst_sorted_perm (fields : List (String × Json)) (le : String × Json → String × Json → Bool) :
    (((sortedFields fields).mergeSort le).map (·.1)).Perm (fields.map (·.1)) := by
  have hperm := (List.mergeSort_perm (sortedFields fields) le).map (·.1)
  have hnames : (sortedFields fields).map (·.1) = fields.map (·.1) := by
    rw [sortedFields_eq_map, List.map_map]
    rfl
  rwa [hnames] at hperm

/-- A value that comes through does so with its names in order: sorting moves
the fields and changes no name. -/
theorem Exact.sorted {value : Json} (h : Exact value) : Exact value.sorted := by
  induction h with
  | null => exact .null
  | bool b => exact .bool b
  | integer hlong => exact .integer hlong
  | text s => exact .text s
  | array _ ih =>
      rw [Json.sorted, sortedItems_eq_map]
      refine .array fun item hitem => ?_
      obtain ⟨item', hitem', rfl⟩ := List.mem_map.mp hitem
      exact ih item' hitem'
  | object hnames _ ih =>
      rw [Json.sorted]
      refine .object ((map_fst_sorted_perm _ _).nodup_iff.mpr hnames) fun f hf => ?_
      rw [List.mem_mergeSort, sortedFields_eq_map] at hf
      obtain ⟨f', hf', rfl⟩ := List.mem_map.mp hf
      exact ih f' hf'

/-- An object whose names are in order stays as it is, if its values do. -/
theorem sorted_object {fields : List (String × Json)} (hvalues : ∀ f ∈ fields, f.2.sorted = f.2)
    (horder : fields.Pairwise fun a b => a.1 ≤ b.1) : (object fields).sorted = .object fields := by
  have hfields : sortedFields fields = fields := by
    have hsame : fields.map (fun f => (f.1, f.2.sorted)) = fields.map id :=
      List.map_congr_left fun f hf => Prod.ext rfl (hvalues f hf)
    rw [sortedFields_eq_map, hsame, List.map_id]
  rw [sorted, hfields]
  exact congrArg object (List.mergeSort_of_pairwise (horder.imp fun h => by simpa using h))

/-- A list of texts has no names to be put in order. -/
theorem sorted_ofTexts (texts : List String) : (ofTexts texts).sorted = .ofTexts texts := by
  rw [ofTexts, sorted, sortedItems_eq_map, List.map_map]
  rfl

/-- The fields of an object. -/
def fields : Json → List (String × Json)
  | .object fields => fields
  | _ => []

/-- Two objects that differ in the order of their fields at most. -/
def SameObject (value other : Json) : Prop :=
  ∃ fields others, value = .object fields ∧ other = .object others ∧ fields.Perm others ∧
    (others.map (·.1)).Nodup

/-- Under a name without repeats there is one value, wherever it stands. -/
theorem lookup_eq_of_perm {fields others : List (String × Json)} (h : fields.Perm others)
    (hnames : (fields.map (·.1)).Nodup) (name : String) :
    fields.lookup name = others.lookup name := by
  induction h with
  | nil => rfl
  | @cons f _ _ _ ih =>
      rw [List.map_cons, List.nodup_cons] at hnames
      rw [List.lookup_cons, List.lookup_cons, ih hnames.2]
  | swap f g rest =>
      simp only [List.map_cons, List.nodup_cons, List.mem_cons, not_or] at hnames
      rw [List.lookup_cons, List.lookup_cons, List.lookup_cons, List.lookup_cons]
      by_cases hf : name = f.1
      · have hg : name ≠ g.1 := fun hg => hnames.1.1 (hg ▸ hf)
        simp [hf, beq_eq_false_iff_ne.mpr (hf ▸ hg)]
      · simp [beq_eq_false_iff_ne.mpr hf]
  | trans h _ ih ih' =>
      rw [ih hnames, ih' ((h.map (·.1)).nodup_iff.mp hnames)]

/-- The same object has the same fields. -/
theorem SameObject.field?_eq {value other : Json} (h : SameObject value other) (name : String) :
    value.field? name = other.field? name := by
  obtain ⟨fields, others, rfl, rfl, hperm, hnames⟩ := h
  exact lookup_eq_of_perm hperm ((hperm.map (·.1)).nodup_iff.mpr hnames) name

/-! ### Documents -/

/-- The document of a value is read as the codes of the value, its names in
order. -/
theorem readCoded_document {value : Json} (h : Exact value) :
    readCoded value.document.toList = .ok value.sorted.coded := by
  have hback := h.sorted.readsBack
  have hvalue := hback.read 0 (2 * (writeIndented 0 value.sorted ++ ['\n']).length + 2) ['\n']
    (by rw [List.length_append]; omega) (endsNumber_newLine 0 [])
  have hdocument : readDocument (writeIndented 0 value.sorted ++ ['\n']) =
      .ok value.sorted.coded := by
    unfold readDocument
    split
    · rename_i left hmark
      obtain ⟨c, cs, hfirst, hopens⟩ := hback.first 0
      rw [hfirst, List.cons_append, List.cons.injEq] at hmark
      exact absurd hmark.1 (hopens.ne (by decide))
    · rw [hback.skipSpace_eq, hvalue]
      rfl
  rw [document, String.toList_ofList, readCoded, hdocument]

/-- The document of a value is read as the value, its names in order: none of
its texts is in need of a repair. -/
theorem read_document {value : Json} (h : Exact value) :
    read value.document.toList = .ok value.sorted := by
  rw [read, readCoded_document h, Except.map, repaired_coded]

end Json

end IdeProjects
