import Mathlib.Data.List.Basic

/-!
# `IdeProjects.Proofs.Text.Cut`: texts cut at a character

Both descriptors are texts of lines, and both put values between double
quotes. Reading them back starts with a cut: at line feeds into lines, at
double quotes into what stands outside and inside of quotes. The stretches
between cuts never hold the character of the cut, so a value survives the
cut exactly when it does not hold that character either.
-/

set_option autoImplicit false

namespace IdeProjects

namespace Text

/-! ### Stretches -/

/-- A stretch between cuts does not hold the character of the cut. By
induction on the text: a character that is no cut joins the first stretch of
the rest. -/
theorem not_mem_of_mem_splitOn {x : Char} {cs piece : List Char} (h : piece ∈ cs.splitOn x) :
    x ∉ piece := by
  rw [List.splitOn_eq_splitOnP] at h
  induction cs generalizing piece with
  | nil =>
      rw [List.splitOnP_nil, List.mem_singleton] at h
      simp [h]
  | cons c rest ih =>
      rw [List.splitOnP_cons_eq_if_modifyHead] at h
      split at h
      · rcases List.mem_cons.mp h with rfl | hrest
        · simp
        · exact ih hrest
      · -- The character joins the first stretch of the rest.
        rename_i hc
        cases hsplit : rest.splitOnP (· == x) with
        | nil => simp [hsplit] at h
        | cons first others =>
            rw [hsplit] at ih h
            rcases List.mem_cons.mp h with rfl | hothers
            · have hfirst := ih (List.mem_cons_self)
              simpa [hfirst] using fun heq => hc (by simp [heq])
            · exact ih (List.mem_cons_of_mem _ hothers)

/-- A text without the separator is one piece. -/
theorem splitOn_of_not_mem {x : Char} {cs : List Char} (h : x ∉ cs) : cs.splitOn x = [cs] :=
  List.splitOnP_eq_singleton fun c hc => by
    simpa using ne_of_mem_of_not_mem hc h

/-- A stretch ends at the first cut. -/
theorem splitOn_append_cons {x : Char} {before : List Char} (h : x ∉ before) (rest : List Char) :
    (before ++ x :: rest).splitOn x = before :: rest.splitOn x := by
  have hpieces := splitOn_of_not_mem h
  rw [List.splitOn_eq_splitOnP] at hpieces
  rw [List.splitOn_eq_splitOnP, List.splitOnP_append_cons _ _ (by simp), hpieces,
    List.splitOn_eq_splitOnP, List.singleton_append]

/-! ### Lines -/

/-- A text of lines is the lines, each with its line feed. -/
theorem toList_unlines {ls : List String} (h : ls ≠ []) :
    ("\n".intercalate ls ++ "\n").toList = ls.flatMap fun l => l.toList ++ ['\n'] := by
  rw [String.toList_append, String.toList_intercalate]
  induction ls with
  | nil => exact absurd rfl h
  | cons l rest ih =>
      cases rest with
      | nil => simp [List.intercalate]
      | cons next others =>
          rw [List.map_cons, List.map_cons, List.intercalate_cons_cons, List.append_assoc,
            ← List.map_cons, ih (List.cons_ne_nil _ _), List.flatMap_cons]
          rfl

/-- The text has the stretch `s`, from the beginning of a line that is not
its first one. -/
def HasStretch (text s : String) : Prop :=
  ∃ before after, text = before ++ "\n" ++ s ++ after

/-- Lines in a row, behind others, are a stretch of the text. -/
theorem hasStretch_of_lines {earlier ls : List String} {s : String} (hne : earlier ≠ [])
    (hs : s.toList = ls.flatMap fun l => l.toList ++ ['\n']) (later : List String) :
    HasStretch ("\n".intercalate (earlier ++ (ls ++ later)) ++ "\n") s := by
  obtain ⟨first, last, rfl⟩ := (List.eq_nil_or_concat' earlier).resolve_left hne
  refine ⟨String.ofList (first.flatMap (fun l => l.toList ++ ['\n']) ++ last.toList),
    String.ofList (later.flatMap fun l => l.toList ++ ['\n']), ?_⟩
  apply String.toList_injective
  rw [toList_unlines (by simp)]
  simp [hs]

/-- The lines of a text: what stands between its line feeds. -/
def linesOf (s : String) : List String := (s.toList.splitOn '\n').map String.ofList

/-- No line of a text holds a line feed. -/
theorem not_mem_of_mem_linesOf {s l : String} (h : l ∈ linesOf s) : '\n' ∉ l.toList := by
  obtain ⟨piece, hpiece, rfl⟩ := List.mem_map.mp h
  rw [String.toList_ofList]
  exact not_mem_of_mem_splitOn hpiece

/-- The last line feed leaves an empty stretch behind it. -/
theorem splitOn_lines {ls : List String} (h : ∀ l ∈ ls, '\n' ∉ l.toList) :
    (ls.flatMap fun l => l.toList ++ ['\n']).splitOn '\n' = ls.map String.toList ++ [[]] := by
  induction ls with
  | nil => rfl
  | cons l rest ih =>
      rw [List.forall_mem_cons] at h
      rw [List.flatMap_cons, List.append_assoc, List.singleton_append, splitOn_append_cons h.1,
        ih h.2, List.map_cons, List.cons_append]

/-- Lines come back from their text, with nothing after the last line feed,
exactly if none of them holds a line feed. -/
theorem linesOf_unlines_iff {ls : List String} (hne : ls ≠ []) :
    linesOf ("\n".intercalate ls ++ "\n") = ls ++ [""] ↔ ∀ l ∈ ls, '\n' ∉ l.toList := by
  constructor
  · intro hlines l hl
    apply not_mem_of_mem_linesOf
    rw [hlines]
    exact List.mem_append_left _ hl
  · intro hfree
    rw [linesOf, toList_unlines hne, splitOn_lines hfree, List.map_append, List.map_map]
    simp [Function.comp_def]

/-! ### Quotes -/

/-- Every second stretch, from the second on, that another one follows. -/
def everySecond : List (List Char) → List (List Char)
  | _ :: inner :: after :: rest => inner :: everySecond (after :: rest)
  | _ => []

/-- What stands between double quotes. -/
def betweenQuotes (cs : List Char) : List (List Char) := everySecond (cs.splitOn '"')

/-- Without quotes nothing is between them. -/
theorem betweenQuotes_of_not_mem {cs : List Char} (h : '"' ∉ cs) : betweenQuotes cs = [] := by
  rw [betweenQuotes, splitOn_of_not_mem h]
  rfl

/-- The first two double quotes are the ends of the first value. -/
theorem betweenQuotes_append {before inner : List Char} (hbefore : '"' ∉ before)
    (hinner : '"' ∉ inner) (rest : List Char) :
    betweenQuotes (before ++ '"' :: (inner ++ '"' :: rest)) = inner :: betweenQuotes rest := by
  rw [betweenQuotes, splitOn_append_cons hbefore, splitOn_append_cons hinner]
  cases hrest : rest.splitOn '"' with
  | nil => exact absurd hrest (List.splitOn_ne_nil _ _)
  | cons after others => rw [everySecond, betweenQuotes, hrest]

/-- Every second piece is a piece. -/
theorem mem_of_mem_everySecond {pieces : List (List Char)} {piece : List Char}
    (h : piece ∈ everySecond pieces) : piece ∈ pieces := by
  fun_induction everySecond pieces with
  | case1 first inner after rest ih =>
      rcases List.mem_cons.mp h with rfl | hrest
      · simp
      · exact List.mem_cons_of_mem _ (List.mem_cons_of_mem _ (ih hrest))
  | case2 => simp at h

/-- Nothing between double quotes holds a double quote. -/
theorem not_mem_of_mem_betweenQuotes {cs inner : List Char} (h : inner ∈ betweenQuotes cs) :
    '"' ∉ inner :=
  not_mem_of_mem_splitOn (mem_of_mem_everySecond h)

end Text

end IdeProjects
