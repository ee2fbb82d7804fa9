import UserDb.Text.Blank

/-!
# Words

The words of a text are its maximal runs without blanks. Which blank separates
two words, and how many, makes no difference, nor do blanks at the ends.

* `words_eq_cons_iff`: a text has a first word exactly when it is a gap, that
  word, and a rest that does not go on with the word;
* `words_eq_nil_iff`: only blank texts have no words.
-/

namespace UserDb.Text

/-! ## Words -/

/-- The words of `t`: its maximal nonempty runs without blanks, in order. -/
def words (t : Text) : List Text := (t.splitOnP isBlank).filter fun piece => !piece.isEmpty

@[simp] theorem words_nil : words [] = [] := rfl

/-- A blank ends a word, so the words on its two sides are independent. -/
theorem words_append_cons {c : Char} (h : isBlank c = true) (s t : Text) :
    words (s ++ c :: t) = words s ++ words t := by
  simp [words, List.splitOnP_append_cons s t h]

/-- A word is its own only word. -/
theorem words_eq_singleton {t : Text} (h : IsWord t) : words t = [t] := by
  simp [words, List.splitOnP_eq_singleton h.2, h.1]

theorem isWord_of_mem_words {t w : Text} (h : w ∈ words t) : IsWord w := by
  simp only [words, List.mem_filter, Bool.not_eq_true', List.isEmpty_eq_false_iff] at h
  exact ⟨h.2, eq_false_of_mem_splitOnP h.1⟩

/-! ## Gaps and words -/

/-- Blanks in front add no word. -/
theorem words_append_left {gap : Text} (h : gap.Blank) (t : Text) :
    words (gap ++ t) = words t := by
  induction gap with
  | nil => rfl
  | cons c gap ih =>
      have hc : isBlank c = true := h c (by simp)
      have hgap : Blank gap := fun d hd => h d (by simp [hd])
      rw [List.cons_append, ← ih hgap]
      exact words_append_cons hc [] (gap ++ t)

theorem words_eq_nil {t : Text} (h : t.Blank) : words t = [] := by
  simpa using words_append_left h []

/-- Blanks behind add no word. -/
theorem words_append_right {gap : Text} (h : gap.Blank) (t : Text) :
    words (t ++ gap) = words t := by
  cases gap with
  | nil => simp
  | cons c gap =>
      have hc : isBlank c = true := h c (by simp)
      have hgap : Blank gap := fun d hd => h d (by simp [hd])
      rw [words_append_cons hc, words_eq_nil hgap, List.append_nil]

/-- A text that does not go on with a word before it: it is empty or starts with
a blank. -/
def StartsBlank (t : Text) : Prop := ∀ c ∈ t.head?, isBlank c = true

/-- The first word of a text that starts with a gap and a word. -/
theorem words_gap_word {gap word rest : Text} (hgap : gap.Blank) (hword : word.IsWord)
    (hrest : rest.StartsBlank) : words (gap ++ word ++ rest) = word :: words rest := by
  rw [List.append_assoc, words_append_left hgap]
  cases rest with
  | nil => simp [words_eq_singleton hword]
  | cons c rest =>
      have hc : isBlank c = true := hrest c (by simp)
      have hgap : Blank [c] := by simp [Blank, hc]
      rw [words_append_cons hc, words_eq_singleton hword]
      exact congrArg (word :: ·) (words_append_left hgap rest).symm

/-- Every text that is not blank starts with a gap and a word. -/
theorem exists_gap_word {t : Text} (h : ¬ t.Blank) : ∃ gap word rest : Text,
    gap.Blank ∧ word.IsWord ∧ rest.StartsBlank ∧ t = gap ++ word ++ rest := by
  obtain ⟨gap, run, hgap, hrun, rfl⟩ := exists_span isBlank t
  obtain ⟨word, rest, hword, hrest, rfl⟩ := exists_span (!isBlank ·) run
  refine ⟨gap, word, rest, hgap, ⟨?_, by simpa using hword⟩, by simpa [StartsBlank] using hrest,
    (List.append_assoc ..).symm⟩
  rintro rfl
  apply h
  cases rest with
  | nil => simpa [Blank] using hgap
  | cons c rest =>
      have h₁ : isBlank c = true := by simpa using hrest c
      have h₂ : isBlank c = false := hrun c (by simp)
      simp [h₁] at h₂

/-- When a text has a first word, and which words come after it. -/
theorem words_eq_cons_iff {t word : Text} {others : List Text} :
    words t = word :: others ↔ ∃ gap rest : Text, gap.Blank ∧ word.IsWord ∧ rest.StartsBlank ∧
      words rest = others ∧ t = gap ++ word ++ rest := by
  constructor
  · intro h
    have hblank : ¬ t.Blank := fun hb => by simp [words_eq_nil hb] at h
    obtain ⟨gap, word', rest, hgap, hword, hrest, rfl⟩ := exists_gap_word hblank
    rw [words_gap_word hgap hword hrest, List.cons.injEq] at h
    obtain ⟨rfl, hothers⟩ := h
    exact ⟨gap, rest, hgap, hword, hrest, hothers, rfl⟩
  · rintro ⟨gap, rest, hgap, hword, hrest, rfl, rfl⟩
    exact words_gap_word hgap hword hrest

/-- Only blank texts have no words. -/
theorem words_eq_nil_iff {t : Text} : words t = [] ↔ t.Blank := by
  refine ⟨fun h => ?_, words_eq_nil⟩
  by_cases hb : t.Blank
  · exact hb
  · obtain ⟨gap, word, rest, hgap, hword, hrest, rfl⟩ := exists_gap_word hb
    rw [words_gap_word hgap hword hrest] at h
    exact absurd h (List.cons_ne_nil _ _)

end UserDb.Text
