import IdeProjects.Descriptor.Markup
import IdeProjects.Proofs.Text.Cut

/-!
# `IdeProjects.Proofs.Descriptor.Reader`: reading a project file back

A reader for the markup of project files that knows nothing of how they are
written. It cuts the text at `<` and `>`, takes the attribute values of a
tag from between double quotes, and expands the five entities, each once.
What it makes of the tags is a tree: an element with other elements in it
is a group, and any other one is a leaf with a text.

The reader goes over the text one character after the other, so what it
does with two texts in a row follows from what it does with each. `Reads`
says that for a stretch of text, `Yields` for a list of lines; the lemmas
about the two take a text apart the way it is put together: lines in a
row, a line with a leaf, lines between the tags of a group. None of them
asks what a value holds.
-/

set_option autoImplicit false

namespace IdeProjects

namespace Markup

/-! ### Entities -/

/-- Expands the five entities, from left to right and each once. -/
def expand : List Char → List Char
  | '&' :: 'a' :: 'm' :: 'p' :: ';' :: rest => '&' :: expand rest
  | '&' :: 'l' :: 't' :: ';' :: rest => '<' :: expand rest
  | '&' :: 'g' :: 't' :: ';' :: rest => '>' :: expand rest
  | '&' :: 'q' :: 'u' :: 'o' :: 't' :: ';' :: rest => '"' :: expand rest
  | '&' :: '#' :: 'x' :: '2' :: '7' :: ';' :: rest => '\'' :: expand rest
  | c :: rest => c :: expand rest
  | [] => []

/-- A character that starts no reference stands for itself. -/
theorem expand_cons_of_ne {c : Char} (h : c ≠ '&') (rest : List Char) :
    expand (c :: rest) = c :: expand rest := by
  rw [expand] <;> rintro rest' rfl <;> exact absurd rfl h

/-- The characters that are written as entities. -/
def special : List Char := ['&', '<', '>', '"', '\'']

/-- A character that needs no escape is written as it is. -/
theorem escapeChar_eq_self {c : Char} (h : c ∉ special) : escapeChar c = [c] := by
  simp only [special, List.mem_cons, List.not_mem_nil, or_false, not_or] at h
  obtain ⟨hamp, hlt, hgt, hquot, hapos⟩ := h
  simp only [escapeChar, hamp, hlt, hgt, hquot, hapos, if_false]

/-- An escaped character expands to the character, whatever follows: an
entity ends with its semicolon, and any other character begins none. -/
theorem expand_escapeChar_append (c : Char) (rest : List Char) :
    expand (escapeChar c ++ rest) = c :: expand rest := by
  by_cases hspecial : c ∈ special
  · simp only [special, List.mem_cons, List.not_mem_nil, or_false] at hspecial
    rcases hspecial with rfl | rfl | rfl | rfl | rfl <;> rfl
  · have hamp : c ≠ '&' := fun h => hspecial (by simp [h, special])
    rw [escapeChar_eq_self hspecial]
    exact expand_cons_of_ne hamp rest

/-- Expanding undoes escaping. -/
theorem expand_escape (s : String) : expand (escape s).toList = s.toList := by
  rw [escape, String.toList_ofList]
  induction s.toList with
  | nil => rfl
  | cons c rest ih => rw [List.flatMap_cons, expand_escapeChar_append, ih]

/-- No escape holds one of the characters that delimit tags and values. -/
theorem not_mem_escapeChar {c : Char} (hc : c ∈ ['<', '>', '"']) (d : Char) :
    c ∉ escapeChar d := by
  simp only [List.mem_cons, List.not_mem_nil, or_false] at hc
  by_cases hspecial : d ∈ special
  · simp only [special, List.mem_cons, List.not_mem_nil, or_false] at hspecial
    rcases hc with rfl | rfl | rfl <;> rcases hspecial with rfl | rfl | rfl | rfl | rfl <;> decide
  · rw [escapeChar_eq_self hspecial, List.mem_singleton]
    rintro rfl
    rcases hc with rfl | rfl | rfl <;> exact hspecial (by decide)

/-- No character that ends a value is left in an escaped one. -/
theorem not_mem_escape {c : Char} (hc : c ∈ ['<', '>', '"']) (s : String) :
    c ∉ (escape s).toList := by
  rw [escape, String.toList_ofList, List.mem_flatMap]
  rintro ⟨d, _, hd⟩
  exact not_mem_escapeChar hc d hd

/-- A value without special characters is written as it is. -/
theorem escape_eq_self {s : String} (h : ∀ c ∈ s.toList, c ∉ special) : escape s = s := by
  have hflat : s.toList.flatMap escapeChar = s.toList.flatMap fun c => [c] :=
    List.flatMap_congr fun c hc => escapeChar_eq_self (h c hc)
  rw [escape, hflat, List.flatMap_singleton', String.ofList_toList]

/-! ### Tags -/

/-- What a tag does: open an element, close one, or be one. -/
inductive Tag where
  | opening (name : String) (values : List String)
  | closing (name : String)
  | single (name : String) (values : List String)
  deriving DecidableEq, Repr

/-- The name at the start of a tag. -/
def tagName (inside : List Char) : String := String.ofList (inside.takeWhile (· ≠ ' '))

/-- The attribute values of a tag. -/
def attributeValues (inside : List Char) : List String :=
  (Text.betweenQuotes inside).map fun value => String.ofList (expand value)

/-- Reads what stands between `<` and `>`. -/
def Tag.ofChars (inside : List Char) : Tag :=
  if inside.head? = some '/' then .closing (String.ofList inside.tail)
  else if inside.getLast? = some '/' then .single (tagName inside) (attributeValues inside)
  else .opening (tagName inside) (attributeValues inside)

/-- Names of elements and attributes: letters alone. -/
def isName (s : String) : Bool := !s.toList.isEmpty && s.toList.all Char.isAlpha

/-! ### The reader -/

/-- What a project file says. -/
inductive Element where
  /-- An element with a text. -/
  | leaf (name : String) (values : List String) (text : String)
  /-- An element with elements in it. -/
  | group (name : String) (values : List String) (children : List Element)

/-- Characters that may stand beside the elements of a group. -/
def isBlank (c : Char) : Bool := c = ' ' || c = '\n'

/-- An element whose end is not read yet. -/
structure OpenElement where
  name : String
  values : List String
  text : List Char
  children : List Element

namespace OpenElement

/-- More text and more elements in it. -/
def add (e : OpenElement) (text : List Char) (children : List Element) : OpenElement :=
  { e with text := e.text ++ text, children := e.children ++ children }

/-- The element at its end. A text beside elements is refused. -/
def close? (e : OpenElement) : Option Element :=
  if e.children.isEmpty then some (.leaf e.name e.values (String.ofList (expand e.text)))
  else if e.text.all isBlank then some (.group e.name e.values e.children)
  else none

/-- Adding nothing leaves an element as it is. -/
@[simp] theorem add_nil (e : OpenElement) : e.add [] [] = e := by simp [add]

/-- What is added in two goes is added in one. -/
theorem add_add (e : OpenElement) (text text' : List Char) (children children' : List Element) :
    (e.add text children).add text' children' =
      e.add (text ++ text') (children ++ children') := by
  simp [add]

end OpenElement

/-- Where the reader is: the tag it has begun, if any, the element it is in
and the ones around that. -/
structure Reading where
  inside : Option (List Char)
  current : OpenElement
  outer : List OpenElement

/-- What a tag changes. -/
def Tag.effect? : Tag → OpenElement → List OpenElement → Option Reading
  | .opening name values, current, outer =>
    some ⟨none, ⟨name, values, [], []⟩, current :: outer⟩
  | .single name values, current, outer =>
    some ⟨none, current.add [] [.leaf name values ""], outer⟩
  | .closing name, current, parent :: outer =>
    if current.name = name then
      current.close?.map fun e => ⟨none, parent.add [] [e], outer⟩
    else none
  | .closing _, _, [] => none

namespace Reading

/-- Before the first character. -/
def start : Reading := ⟨none, ⟨"", [], [], []⟩, []⟩

/-- Reads one character. -/
def step (s : Reading) (c : Char) : Option Reading :=
  match s.inside with
  | none =>
    if c = '<' then some { s with inside := some [] }
    else if c = '>' then none
    else some { s with current := s.current.add [c] [] }
  | some seen =>
    if c = '>' then (Tag.ofChars seen).effect? s.current s.outer
    else if c = '<' then none
    else some { s with inside := some (seen ++ [c]) }

/-- After the last character: one element, with blanks around it. -/
def finish? (s : Reading) : Option Element :=
  match s.inside, s.outer, s.current.children with
  | none, [], [e] => if s.current.text.all isBlank then some e else none
  | _, _, _ => none

end Reading

/-- Reads a text. -/
def read? (s : String) : Option Element :=
  (s.toList.foldlM Reading.step Reading.start).bind Reading.finish?

/-! ### Stretches of text -/

/-- The stretch `cs` adds a text and elements to the element it stands in. -/
def Reads (cs text : List Char) (es : List Element) : Prop :=
  ∀ current outer, cs.foldlM Reading.step ⟨none, current, outer⟩ =
    some ⟨none, current.add text es, outer⟩

namespace Reads

/-- The empty stretch adds nothing. -/
theorem nil : Reads [] [] [] := by
  intro current outer
  simp

/-- A stretch behind another adds its text and its elements behind those of
the first. -/
theorem append {cs cs' text text' : List Char} {es es' : List Element} (h : Reads cs text es)
    (h' : Reads cs' text' es') : Reads (cs ++ cs') (text ++ text') (es ++ es') := by
  intro current outer
  rw [List.foldlM_append, h, Option.bind_eq_bind, Option.bind_some, h', OpenElement.add_add]

/-- Characters outside of tags are text; they are expanded only when the
element ends. -/
theorem text {cs : List Char} (hlt : '<' ∉ cs) (hgt : '>' ∉ cs) : Reads cs cs [] := by
  induction cs with
  | nil => exact nil
  | cons c rest ih =>
      rw [List.mem_cons, not_or] at hlt hgt
      have hchar : Reads [c] [c] [] := by
        intro current outer
        simp [Reading.step, Ne.symm hlt.1, Ne.symm hgt.1]
      exact hchar.append (ih hlt.2 hgt.2)

end Reads

/-- Characters inside of a tag are kept until the tag ends. -/
theorem foldlM_step_inside {inside : List Char} (hlt : '<' ∉ inside) (hgt : '>' ∉ inside)
    (seen : List Char) (current : OpenElement) (outer : List OpenElement) :
    inside.foldlM Reading.step ⟨some seen, current, outer⟩ =
      some ⟨some (seen ++ inside), current, outer⟩ := by
  induction inside generalizing seen with
  | nil => simp
  | cons c rest ih =>
      rw [List.mem_cons, not_or] at hlt hgt
      rw [List.foldlM_cons, Reading.step]
      simp [Ne.symm hlt.1, Ne.symm hgt.1, ih hlt.2 hgt.2]

/-! ### Tags as they are written -/

section

variable {name field : String}

/-- A name of an element has letters only. -/
theorem not_mem_of_isName (h : isName name = true) {c : Char} (hc : c.isAlpha = false) :
    c ∉ name.toList := by
  intro hmem
  simp only [isName, Bool.and_eq_true, List.all_eq_true] at h
  simp [h.2 c hmem] at hc

/-- A tag that starts with a name is no end tag. -/
theorem head?_append_ne (h : isName name = true) (rest : List Char) :
    (name.toList ++ rest).head? ≠ some '/' := by
  have hslash := not_mem_of_isName (c := '/') h (by decide)
  cases hname : name.toList with
  | nil => simp [isName, hname] at h
  | cons c cs =>
      rw [hname, List.mem_cons, not_or] at hslash
      simpa using Ne.symm hslash.1

/-- The name of a tag ends at the first space. -/
theorem tagName_append (h : isName name = true) {rest : List Char}
    (hrest : rest = [] ∨ rest.head? = some ' ') : tagName (name.toList ++ rest) = name := by
  have hspace := not_mem_of_isName (c := ' ') h (by decide)
  have hstop : rest.takeWhile (fun c => decide (c ≠ ' ')) = [] := by
    cases rest <;> simp_all
  rw [tagName, List.takeWhile_append_of_pos, hstop]
  · simp
  · intro c hc
    simpa using ne_of_mem_of_not_mem hc hspace

/-- A tag with an attribute, up to what follows the attribute. -/
def attributeChars (name field value : String) (rest : List Char) : List Char :=
  name.toList ++ ' ' :: (field.toList ++ '=' :: '"' :: ((escape value).toList ++ '"' :: rest))

/-- The one value of a tag with an attribute is found again: its escape has no
quotes, so it ends at the quote that was written behind it. -/
theorem attributeValues_attributeChars (hname : isName name = true)
    (hfield : isName field = true) (value : String) {rest : List Char}
    (hrest : '"' ∉ rest) :
    attributeValues (attributeChars name field value rest) = [value] := by
  have hbefore : '"' ∉ name.toList ++ ' ' :: (field.toList ++ ['=']) := by
    simp [not_mem_of_isName (c := '"') hname (by decide),
      not_mem_of_isName (c := '"') hfield (by decide)]
  have hvalue : '"' ∉ (escape value).toList := not_mem_escape (by simp) value
  have hquotes := Text.betweenQuotes_append hbefore hvalue rest
  rw [Text.betweenQuotes_of_not_mem hrest] at hquotes
  rw [attributeValues, attributeChars]
  simp only [List.append_assoc, List.cons_append, List.nil_append] at hquotes
  simp [hquotes, expand_escape]

/-- A tag with an attribute holds no bracket inside, whatever its value is,
for the value is escaped. -/
theorem not_mem_attributeChars (hname : isName name = true) (hfield : isName field = true)
    (value : String) {c : Char} (hc : c ∈ ['<', '>']) {rest : List Char} (hrest : c ∉ rest) :
    c ∉ attributeChars name field value rest := by
  have hvalue : c ∉ (escape value).toList :=
    not_mem_escape (List.mem_append_left ['"'] hc) value
  simp only [List.mem_cons, List.not_mem_nil, or_false] at hc
  have hletter : c.isAlpha = false := by
    rcases hc with rfl | rfl <;> rfl
  have hinName := not_mem_of_isName hname hletter
  have hinField := not_mem_of_isName hfield hletter
  rcases hc with rfl | rfl <;> simp [attributeChars, hvalue, hrest, hinName, hinField]

/-- A name in brackets opens an element without values. -/
theorem ofChars_name (h : isName name = true) : Tag.ofChars name.toList = .opening name [] := by
  have hslash := not_mem_of_isName (c := '/') h (by decide)
  have hhead := head?_append_ne h []
  have htagName := tagName_append h (Or.inl rfl)
  rw [List.append_nil] at hhead htagName
  have hlast : name.toList.getLast? ≠ some '/' := fun hl => hslash (List.mem_of_getLast? hl)
  have hquote := not_mem_of_isName (c := '"') h (by decide)
  rw [Tag.ofChars, if_neg hhead, if_neg hlast, htagName, attributeValues,
    Text.betweenQuotes_of_not_mem hquote, List.map_nil]

/-- What follows the attribute decides whether the element ends with the
tag. -/
theorem ofChars_attributeChars (hname : isName name = true) (hfield : isName field = true)
    (value : String) {rest : List Char} (hrest : '"' ∉ rest) :
    Tag.ofChars (attributeChars name field value rest) =
      if rest.getLast? = some '/' then .single name [value] else .opening name [value] := by
  have hhead : (attributeChars name field value rest).head? ≠ some '/' := head?_append_ne hname _
  have hlast : (attributeChars name field value rest).getLast? = some '/' ↔
      rest.getLast? = some '/' := by
    cases rest <;> simp [attributeChars, List.getLast?_append, List.getLast?_cons]
  have htagName : tagName (attributeChars name field value rest) = name :=
    tagName_append hname (Or.inr rfl)
  rw [Tag.ofChars, if_neg hhead, htagName, attributeValues_attributeChars hname hfield value hrest]
  simp only [hlast]

/-- A slash and a name in brackets close an element. -/
theorem ofChars_closing (name : String) : Tag.ofChars ('/' :: name.toList) = .closing name := by
  simp [Tag.ofChars]

end

/-! ### Elements -/

/-- A tag by itself. -/
def IsTag (cs : List Char) (tag : Tag) : Prop :=
  ∃ inside, cs = '<' :: (inside ++ ['>']) ∧ '<' ∉ inside ∧ '>' ∉ inside ∧
    Tag.ofChars inside = tag

namespace IsTag

/-- A tag is read as a whole. -/
theorem foldlM_step {cs : List Char} {tag : Tag} (h : IsTag cs tag) (current : OpenElement)
    (outer : List OpenElement) :
    cs.foldlM Reading.step ⟨none, current, outer⟩ = tag.effect? current outer := by
  obtain ⟨inside, rfl, hlt, hgt, rfl⟩ := h
  rw [List.foldlM_cons, Reading.step]
  simp [List.foldlM_append, foldlM_step_inside hlt hgt, Reading.step]

/-- The opening tag of an element without attributes. -/
theorem name {name : String} (h : isName name = true) :
    IsTag ('<' :: (name.toList ++ ['>'])) (.opening name []) :=
  ⟨_, rfl, not_mem_of_isName h (by decide), not_mem_of_isName h (by decide), ofChars_name h⟩

/-- The closing tag of an element. -/
theorem closing {name : String} (h : isName name = true) :
    IsTag ('<' :: '/' :: (name.toList ++ ['>'])) (.closing name) := by
  refine ⟨'/' :: name.toList, rfl, ?_, ?_, ofChars_closing name⟩
  · simpa using not_mem_of_isName h (by decide)
  · simpa using not_mem_of_isName h (by decide)

/-- The opening tag of an element with one attribute. -/
theorem field {name field : String} (hname : isName name = true)
    (hfield : isName field = true) (value : String) :
    IsTag ('<' :: (attributeChars name field value [] ++ ['>'])) (.opening name [value]) :=
  ⟨_, rfl, not_mem_attributeChars hname hfield value (by simp) (by simp),
    not_mem_attributeChars hname hfield value (by simp) (by simp),
    ofChars_attributeChars hname hfield value (by simp)⟩

/-- The tag of an empty element with one attribute. -/
theorem single {name field : String} (hname : isName name = true)
    (hfield : isName field = true) (value : String) :
    IsTag ('<' :: (attributeChars name field value [' ', '/'] ++ ['>'])) (.single name [value]) :=
  ⟨_, rfl, not_mem_attributeChars hname hfield value (by simp) (by simp),
    not_mem_attributeChars hname hfield value (by simp) (by simp),
    ofChars_attributeChars hname hfield value (by simp)⟩

end IsTag

namespace Reads

/-- What stands between the tags of an element is in the element. -/
theorem element {start cs stop text : List Char} {es : List Element} {name : String}
    {values : List String} {e : Element} (hstart : IsTag start (.opening name values))
    (hstop : IsTag stop (.closing name)) (h : Reads cs text es)
    (hclose : OpenElement.close? ⟨name, values, text, es⟩ = some e) :
    Reads (start ++ (cs ++ stop)) [] [e] := by
  intro current outer
  rw [List.foldlM_append, hstart.foldlM_step]
  simp only [Tag.effect?, Option.bind_eq_bind, Option.bind_some]
  rw [List.foldlM_append, h, Option.bind_eq_bind, Option.bind_some, hstop.foldlM_step]
  simp [Tag.effect?, OpenElement.add, hclose]

/-- An empty element stands where its one tag stands. -/
theorem single {cs : List Char} {name : String} {values : List String}
    (h : IsTag cs (.single name values)) : Reads cs [] [.leaf name values ""] := by
  intro current outer
  rw [h.foldlM_step, Tag.effect?]

/-- A value between tags is the text of a leaf. -/
theorem leaf {start stop : List Char} {name : String} {values : List String}
    (hstart : IsTag start (.opening name values)) (hstop : IsTag stop (.closing name))
    (value : String) :
    Reads (start ++ ((escape value).toList ++ stop)) [] [.leaf name values value] := by
  refine element hstart hstop (text (not_mem_escape (by simp) _) (not_mem_escape (by simp) _)) ?_
  simp [OpenElement.close?, expand_escape]

/-- Elements between tags, with blanks beside them, are a group. -/
theorem group {start cs stop blanks : List Char} {es : List Element} {name : String}
    {values : List String} (hstart : IsTag start (.opening name values))
    (hstop : IsTag stop (.closing name)) (hblanks : blanks.all isBlank = true)
    (h : Reads cs blanks es) (hes : es ≠ []) :
    Reads (start ++ (cs ++ stop)) [] [.group name values es] := by
  refine element hstart hstop h ?_
  simp [OpenElement.close?, hes, hblanks]

/-- The blanks before a line are text of the element around it. -/
theorem indent (width : Nat) :
    Reads (List.replicate width ' ') (List.replicate width ' ') [] :=
  text (by simp) (by simp)

/-- So is the line feed behind it. -/
theorem feed : Reads ['\n'] ['\n'] [] := text (by simp) (by simp)

end Reads

/-! ### Lines -/

/-- The characters of lines, each with its line feed. -/
def lineChars (ls : List String) : List Char := ls.flatMap fun l => l.toList ++ ['\n']

/-- The lines `ls` add elements, with blanks beside them. -/
def Yields (ls : List String) (es : List Element) : Prop :=
  ∃ blanks, blanks.all isBlank = true ∧ Reads (lineChars ls) blanks es

namespace Yields

/-- No lines yield no elements. -/
theorem nil : Yields [] [] := ⟨[], rfl, .nil⟩

/-- Lines behind others yield their elements behind those of the first. -/
theorem append {ls ls' : List String} {es es' : List Element} (h : Yields ls es)
    (h' : Yields ls' es') : Yields (ls ++ ls') (es ++ es') := by
  obtain ⟨blanks, hblanks, hreads⟩ := h
  obtain ⟨blanks', hblanks', hreads'⟩ := h'
  refine ⟨blanks ++ blanks', by simp [hblanks, hblanks'], ?_⟩
  rw [lineChars, List.flatMap_append]
  exact hreads.append hreads'

/-- Lines for one item after another. -/
theorem flatMap {α : Type} {ls : α → List String} {e : α → Element} (h : ∀ x, Yields (ls x) [e x])
    (xs : List α) : Yields (xs.flatMap ls) (xs.map e) := by
  induction xs with
  | nil => exact nil
  | cons x rest ih => exact (h x).append ih

/-- An indented line with one element. -/
theorem line {l : String} {cs : List Char} {e : Element} (width : Nat)
    (hl : l.toList = List.replicate width ' ' ++ cs) (h : Reads cs [] [e]) : Yields [l] [e] := by
  refine ⟨List.replicate width ' ' ++ ['\n'], by simp [isBlank], ?_⟩
  simpa [lineChars, hl] using (Reads.indent width).append (h.append .feed)

/-- Lines between the tags of a group, the tags on lines of their own. -/
theorem group {first last : String} {start stop : List Char} {ls : List String}
    {es : List Element} {name : String} {values : List String} (width : Nat)
    (hfirst : first.toList = List.replicate width ' ' ++ start)
    (hlast : last.toList = List.replicate width ' ' ++ stop)
    (hstart : IsTag start (.opening name values)) (hstop : IsTag stop (.closing name))
    (hes : es ≠ []) (h : Yields ls es) :
    Yields (first :: (ls ++ [last])) [.group name values es] := by
  obtain ⟨blanks, hblanks, hreads⟩ := h
  -- The line feed of the first line and the indent of the last are inside of the group.
  have hinside : Reads ('\n' :: (lineChars ls ++ List.replicate width ' '))
      ('\n' :: (blanks ++ List.replicate width ' ')) es := by
    simpa using Reads.feed.append (hreads.append (.indent width))
  have hgroup := Reads.group hstart hstop (by simp [hblanks, isBlank]) hinside hes
  refine ⟨List.replicate width ' ' ++ ['\n'], by simp [isBlank], ?_⟩
  simpa [lineChars, hfirst, hlast] using (Reads.indent width).append (hgroup.append .feed)

end Yields

/-- A text whose lines yield one element is read as the element. -/
theorem read?_of_yields {s : String} {ls : List String} {e : Element}
    (hs : s.toList = lineChars ls) (h : Yields ls [e]) : read? s = some e := by
  obtain ⟨blanks, hblanks, hreads⟩ := h
  rw [read?, hs, Reading.start, hreads]
  simp [Reading.finish?, OpenElement.add, hblanks]

/-- Lines with line feeds behind them that yield one element are read as the
element. -/
theorem read?_unlines {ls : List String} (hne : ls ≠ []) {e : Element} (h : Yields ls [e]) :
    read? ("\n".intercalate ls ++ "\n") = some e :=
  read?_of_yields (by rw [Text.toList_unlines hne, lineChars]) h

end Markup

end IdeProjects
