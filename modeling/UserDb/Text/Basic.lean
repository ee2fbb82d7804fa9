/-!
# Texts, and how they are cut

A `Text` is the list of its characters, one per code point, so its `length`
counts code points and two texts are equal exactly when they agree character
for character. A character is a Unicode scalar value: surrogate code points,
which stand for no character by themselves, are in no text.

Whatever takes a text apart at separators goes through the library's
`List.splitOnP`, which keeps the pieces between them, empty ones included. Words
and lines are such pieces. Two of their laws are the library's: a separator
splits the pieces of a longer text in two (`List.splitOnP_append_cons`), and a
text without separators is its own only piece (`List.splitOnP_eq_singleton`).
The third is here:

* `eq_false_of_mem_splitOnP`: no piece holds a separator.
-/

namespace UserDb

/-- A sequence of characters. -/
abbrev Text := List Char

namespace Text

/-- The characters of a string. It is irreducible so that fixed wording stays
whole in a proof until `ofString_eq` opens it. -/
@[irreducible] def ofString (s : String) : Text := s.toList

theorem ofString_eq (s : String) : ofString s = s.toList := by rw [ofString]

/-! ## Runs and pieces -/

/-- What is left behind a run does not go on with it. -/
theorem eq_false_of_mem_head?_dropWhile {p : Char → Bool} {t : Text} {c : Char}
    (h : c ∈ (t.dropWhile p).head?) : p c = false := by
  have hhead := List.head?_dropWhile_not p t
  rw [Option.mem_def.mp h] at hhead
  exact hhead

/-- Every text is a run of characters satisfying `p` and a rest that does not go
on with the run. -/
theorem exists_span (p : Char → Bool) (t : Text) : ∃ run rest : Text,
    (∀ c ∈ run, p c = true) ∧ (∀ c ∈ rest.head?, p c = false) ∧ t = run ++ rest :=
  ⟨t.takeWhile p, t.dropWhile p, List.all_eq_true.mp List.all_takeWhile,
    fun _ => eq_false_of_mem_head?_dropWhile, List.takeWhile_append_dropWhile.symm⟩

/-- No piece holds a separator. -/
theorem eq_false_of_mem_splitOnP {p : Char → Bool} {t piece : Text} (h : piece ∈ t.splitOnP p) :
    ∀ c ∈ piece, p c = false := by
  induction t generalizing piece with
  | nil => simp_all [List.splitOnP_nil]
  | cons d t ih =>
      rw [List.splitOnP_cons_eq_if_modifyHead] at h
      cases hd : p d with
      | true =>
          simp only [hd, if_true, List.mem_cons] at h
          rcases h with rfl | h
          · simp
          · exact ih h
      | false =>
          obtain ⟨first, rest, ht⟩ := List.exists_cons_of_ne_nil (List.splitOnP_ne_nil p t)
          simp only [hd, Bool.false_eq_true, if_false, ht, List.modifyHead_cons,
            List.mem_cons] at h
          rcases h with rfl | h
          · intro c hc
            rcases List.mem_cons.mp hc with rfl | hc
            · exact hd
            · exact ih (show first ∈ t.splitOnP p by simp [ht]) c hc
          · exact ih (by simp [ht, h])

/-! ## Keywords -/

/-- What follows `keyword` at the start of `t`, if `t` starts with it. -/
def afterKeyword? (keyword t : Text) : Option Text :=
  if keyword <+: t then some (t.drop keyword.length) else none

theorem afterKeyword?_eq_some_iff {keyword t rest : Text} :
    afterKeyword? keyword t = some rest ↔ t = keyword ++ rest := by
  unfold afterKeyword?
  split
  · next h =>
      have h' := List.prefix_iff_eq_append.mp h
      constructor
      · intro e
        rw [← Option.some.inj e, h']
      · rintro rfl
        simp
  · next h =>
      simp only [reduceCtorEq, false_iff]
      rintro rfl
      exact h (List.prefix_append ..)

end Text

end UserDb
