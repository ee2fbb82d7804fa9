import UserDb.Text.Lines

/-!
# The lines of an input

`Text.lines` cuts at every line feed and repairs the end.  `IsLines` says what
the lines are without cutting: the input is the lines, each ended by a line
feed, except that the last may go without if it is not empty.

The induction along the lines of an input, `lines_induction`, follows the same
shape: nothing, a last line without a line feed, or a line, its line feed and
the rest.

## Main results

* `lines_eq_iff`: the lines are what `IsLines` says, and nothing else is.
* `lines_append`: the lines of two inputs one after the other.
-/

namespace UserDb.Text

/-- The text made of the lines, each ended by a line feed. -/
def unlines (lines : List Text) : Text := lines.flatMap (· ++ ['\n'])

@[simp] theorem unlines_nil : unlines [] = [] := rfl

@[simp] theorem unlines_cons (line : Text) (rest : List Text) :
    unlines (line :: rest) = line ++ '\n' :: unlines rest := by
  simp [unlines]

/-- The input has these lines: no line holds a line feed, and each is ended by
one, except that a last line that is not empty may be ended by the input. -/
structure IsLines (input : Text) (lines : List Text) : Prop where
  newline_not_mem : ∀ line ∈ lines, '\n' ∉ line
  text : input = unlines lines ∨ ∃ first last, lines = first ++ [last] ∧ last ≠ [] ∧
    input = unlines first ++ last

/-- Every input is nothing, a last line without a line feed, or a line with its
line feed and another input. -/
theorem lines_induction {motive : Text → Prop} (nil : motive [])
    (last : ∀ line : Text, '\n' ∉ line → line ≠ [] → motive line)
    (newline : ∀ line rest : Text, '\n' ∉ line → motive rest → motive (line ++ '\n' :: rest))
    (t : Text) : motive t := by
  obtain ⟨line, rest, hline, hrest, hsplit⟩ := exists_span (· != '\n') t
  have hmem : '\n' ∉ line := fun h => by simpa using hline _ h
  cases rest with
  | nil =>
      rw [hsplit, List.append_nil]
      by_cases hne : line = []
      · rw [hne]
        exact nil
      · exact last line hmem hne
  | cons c rest =>
      have hc : c = '\n' := by simpa using hrest c
      rw [hsplit, hc]
      exact newline line rest hmem (lines_induction nil last newline rest)
termination_by t.length
decreasing_by
  rw [hsplit, List.length_append, List.length_cons]
  omega

theorem isLines_lines (t : Text) : IsLines t t.lines := by
  induction t using lines_induction with
  | nil => exact ⟨by simp, .inl rfl⟩
  | last line hline hne =>
      rw [lines_eq_singleton hline hne]
      exact ⟨by simpa using hline, .inr ⟨[], line, rfl, hne, rfl⟩⟩
  | newline line rest hline ih =>
      rw [lines_append_newline hline]
      refine ⟨?_, ?_⟩
      · intro line' hline'
        rcases List.mem_cons.mp hline' with rfl | hmem
        · exact hline
        · exact ih.newline_not_mem line' hmem
      · rcases ih.text with htext | ⟨first, last, hlines, hne, htext⟩
        · refine .inl ?_
          rw [unlines_cons, ← htext]
        · refine .inr ⟨line :: first, last, by rw [hlines, List.cons_append], hne, ?_⟩
          rw [unlines_cons, List.append_assoc, List.cons_append, ← htext]

/-- Lines that are put together with their line feeds are the lines of what
comes out, whatever input follows them. -/
theorem lines_unlines_append {lines : List Text} (h : ∀ line ∈ lines, '\n' ∉ line) (t : Text) :
    (unlines lines ++ t).lines = lines ++ t.lines := by
  induction lines with
  | nil => rfl
  | cons line rest ih =>
      have hrest : ∀ line' ∈ rest, '\n' ∉ line' := fun line' hmem => h line' (by simp [hmem])
      rw [unlines_cons, List.append_assoc, List.cons_append,
        lines_append_newline (h line (by simp)), ih hrest, List.cons_append]

/-- The text ends with a line: nothing stands behind its last line feed. -/
def EndsLine (t : Text) : Prop := t = [] ∨ t.getLast? = some '\n'

/-- Such a text is its lines, each ended by a line feed. -/
theorem eq_unlines_of_endsLine {t : Text} (h : EndsLine t) : t = unlines t.lines := by
  rcases (isLines_lines t).text with htext | ⟨first, last, hlines, hne, htext⟩
  · exact htext
  · have hlast : t.getLast? = last.getLast? := by
      rw [htext, List.getLast?_append, List.getLast?_eq_some_getLast hne]
      rfl
    have hnone : '\n' ∉ last :=
      (isLines_lines t).newline_not_mem last (by simp [hlines])
    rcases h with rfl | hnewline
    · have hnil := (List.append_eq_nil_iff.mp htext.symm).2
      exact absurd hnil hne
    · rw [hlast] at hnewline
      exact absurd (List.mem_of_getLast? hnewline) hnone

theorem endsLine_unlines (lines : List Text) : EndsLine (unlines lines) := by
  rcases List.eq_nil_or_concat lines with rfl | ⟨first, last, rfl⟩
  · exact .inl rfl
  · exact .inr (by simp [unlines])

/-- What follows such a text begins with a line of its own. -/
theorem lines_append {s : Text} (h : EndsLine s) (t : Text) :
    (s ++ t).lines = s.lines ++ t.lines := by
  have hnone : ∀ line ∈ s.lines, '\n' ∉ line := fun _ hline => newline_not_mem_of_mem_lines hline
  calc
    (s ++ t).lines = (unlines s.lines ++ t).lines := by rw [← eq_unlines_of_endsLine h]
    _ = s.lines ++ t.lines := lines_unlines_append hnone t

/-- The lines of an input are what `IsLines` says, and nothing else is. -/
theorem lines_eq_iff {input : Text} {lines : List Text} :
    input.lines = lines ↔ IsLines input lines := by
  constructor
  · intro hlines
    rw [← hlines]
    exact isLines_lines input
  · intro h
    have hnone := h.newline_not_mem
    rcases h.text with htext | ⟨first, last, rfl, hne, htext⟩
    · have happend := lines_unlines_append hnone []
      rw [List.append_nil, lines_nil, List.append_nil, ← htext] at happend
      exact happend
    · have hfirst : ∀ line ∈ first, '\n' ∉ line := fun line hmem => hnone line (by simp [hmem])
      rw [htext, lines_unlines_append hfirst, lines_eq_singleton (hnone last (by simp)) hne]

/-- A line feed behind a last line that lacks it makes no other line. -/
theorem lines_append_singleton_newline {t : Text} (h : ¬ EndsLine t) :
    (t ++ ['\n']).lines = t.lines := by
  have hlines := isLines_lines t
  refine lines_eq_iff.mpr ⟨hlines.newline_not_mem, .inl ?_⟩
  rcases hlines.text with htext | ⟨first, last, hsplit, -, htext⟩
  · exact absurd (htext ▸ endsLine_unlines t.lines) h
  · rw [hsplit]
    conv => lhs; rw [htext]
    simp [unlines]

end UserDb.Text
