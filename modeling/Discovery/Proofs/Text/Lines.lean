import Mathlib.Data.List.Basic
import Discovery.Text.Split

namespace Discovery.Text

/-- Cutting at each occurrence of a separator is what the library for lists does. -/
theorem pieces_eq_splitOn (sep : Char) (s : List Char) : pieces sep s = s.splitOn sep := by
  induction s with
  | nil => simp [pieces]
  | cons c rest ih =>
    have hne := List.splitOn_ne_nil sep rest
    rw [pieces, List.splitOn_cons_eq_if_modifyHead, ih]
    by_cases hc : c = sep
    · simp [hc]
    · rw [if_neg hc, if_neg (by simpa using hc)]
      cases hparts : rest.splitOn sep with
      | nil => exact absurd hparts hne
      | cons part parts => rfl

/-- The parts hold the characters of the text in their order, all but the separators. -/
theorem flatten_pieces (sep : Char) (s : List Char) :
    (pieces sep s).flatten = s.filter fun c => c ≠ sep := by
  induction s with
  | nil => rfl
  | cons c rest ih =>
    rw [pieces, List.filter_cons]
    by_cases hc : c = sep
    · simpa [hc] using ih
    · rw [if_neg hc, if_pos (decide_eq_true hc), ← ih]
      cases pieces sep rest <;> rfl

theorem pieces_append (sep : Char) (s t : List Char) :
    pieces sep (s ++ sep :: t) = pieces sep s ++ pieces sep t := by
  simp only [pieces_eq_splitOn, List.splitOn_append_cons_self]

theorem pieces_intercalate {sep : Char} {parts : List (List Char)}
    (hfree : ∀ part ∈ parts, sep ∉ part) (hne : parts ≠ []) :
    pieces sep ([sep].intercalate parts) = parts := by
  rw [pieces_eq_splitOn, List.splitOn_intercalate sep hfree hne]

theorem notMem_of_mem_pieces {sep : Char} {s part : List Char} (h : part ∈ pieces sep s) :
    sep ∉ part := by
  induction s generalizing part with
  | nil =>
    obtain rfl := List.mem_singleton.mp h
    exact List.not_mem_nil
  | cons c rest ih =>
    rw [pieces] at h
    by_cases hc : c = sep
    · rw [if_pos hc, List.mem_cons] at h
      obtain rfl | hpart := h
      · exact List.not_mem_nil
      · exact ih hpart
    · rw [if_neg hc] at h
      have hfirst {front : List Char} (hfront : sep ∉ front) : sep ∉ c :: front := by
        simp [Ne.symm hc, hfront]
      split at h
      next =>
        obtain rfl := List.mem_singleton.mp h
        exact hfirst List.not_mem_nil
      next first parts hparts =>
        obtain rfl | hpart := List.mem_cons.mp h
        · exact hfirst (ih (by simp [hparts]))
        · exact ih (by simp [hparts, hpart])

/-- A line without a carriage return at its end. -/
def withoutReturn (line : List Char) : List Char :=
  if line.getLast? = some '\r' then line.dropLast else line

/-- The lines of a text. Each line feed ends a line, together with a carriage return in front of it.
    Behind the last line feed there is one more line, unless nothing stands there. -/
def lines (s : List Char) : List (List Char) :=
  let parts := s.splitOn '\n'
  parts.dropLast.map withoutReturn ++ (parts.getLast?.filter fun part => !part.isEmpty).toList

theorem exists_of_withoutReturn (line : List Char) :
    line = withoutReturn line ∨ line = withoutReturn line ++ ['\r'] := by
  unfold withoutReturn
  split
  next hlast =>
    right
    exact (List.dropLast_append_getLast? _ hlast).symm
  next => exact Or.inl rfl

/-- What is found in the lines of a text is found between its line feeds, if neither a carriage
    return at the end of a line nor an empty line makes a difference. -/
theorem filterMap_lines {α : Type} {f : List Char → Option α}
    (hreturn : ∀ line, f (line ++ ['\r']) = f line) (hempty : f [] = none) (s : List Char) :
    (lines s).filterMap f = (pieces '\n' s).filterMap f := by
  have hsame : f ∘ withoutReturn = f := by
    funext line
    obtain hline | hline := exists_of_withoutReturn line
    · rw [Function.comp_apply, ← hline]
    · rw [Function.comp_apply, ← hreturn, ← hline]
  obtain ⟨parts, last, hparts⟩ :=
    (List.eq_nil_or_concat (s.splitOn '\n')).resolve_left (List.splitOn_ne_nil '\n' s)
  rw [List.concat_eq_append] at hparts
  rw [pieces_eq_splitOn, lines, hparts]
  simp only [List.dropLast_concat, List.getLast?_concat, List.filterMap_append, List.filterMap_map,
    hsame]
  cases last with
  | nil => simp [hempty]
  | cons c rest => rfl

end Discovery.Text
