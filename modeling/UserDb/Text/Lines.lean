import UserDb.Text.Basic

/-!
# Lines

The lines of an input text. Only the line feed ends a line; every other
character, carriage return included, is part of one. A text that ends in a line
feed ends with the line before it, and a rest without one is a line too.

* `lines_append_newline`: a line feed ends the first line, and the lines after
  it are those of the rest;
* `lines_eq_singleton`: a rest without a line feed is the last line.
-/

namespace UserDb.Text

/-- The lines of `t`: its pieces between line feeds, without the empty piece
after a final line feed. -/
def lines (t : Text) : List Text :=
  let pieces := t.splitOn '\n'
  if pieces.getLast? = some [] then pieces.dropLast else pieces

@[simp] theorem lines_nil : lines [] = [] := rfl

/-- A line feed ends the first line. -/
theorem lines_append_newline {line : Text} (h : '\n' ∉ line) (t : Text) :
    lines (line ++ '\n' :: t) = line :: lines t := by
  obtain ⟨first, rest, ht⟩ := List.exists_cons_of_ne_nil (List.splitOn_ne_nil '\n' t)
  simp only [lines, List.splitOn_append_cons_self_of_not_mem h, ht, List.getLast?_cons_cons,
    List.dropLast_cons_cons]
  split <;> rfl

/-- What comes after the last line feed is a line, unless it is empty. -/
theorem lines_eq_singleton {t : Text} (h : '\n' ∉ t) (hne : t ≠ []) : lines t = [t] := by
  simp [lines, List.splitOn_eq_singleton h, hne]

/-- No line holds a line feed. -/
theorem newline_not_mem_of_mem_lines {t line : Text} (h : line ∈ lines t) : '\n' ∉ line := by
  have hmem : line ∈ t.splitOn '\n' := by
    simp only [lines] at h
    split at h
    · exact List.dropLast_subset _ h
    · exact h
  rw [List.splitOn_eq_splitOnP] at hmem
  intro hn
  simpa using eq_false_of_mem_splitOnP hmem _ hn

end UserDb.Text
