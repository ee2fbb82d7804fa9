import UserDb.Text.Words

/-!
# Stripping

`strip t` is `t` without the blanks at its two ends.

* `strip_eq_iff`: stripping takes off the blanks at the ends, all of them and
  nothing else;
* `strip_append`: blanks put around a text make no difference;
* `words_strip`: no word is lost.
-/

namespace UserDb.Text

/-! ## Stripping -/

/-- The text without its leading blanks. -/
def stripStart (t : Text) : Text := t.dropWhile isBlank

/-- The text without its trailing blanks. -/
def stripEnd (t : Text) : Text := (t.reverse.dropWhile isBlank).reverse

/-- The text without the blanks at its two ends. -/
def strip (t : Text) : Text := stripEnd (stripStart t)

/-- A text without blanks at its ends. -/
def IsStripped (t : Text) : Prop :=
  (∀ c ∈ t.head?, isBlank c = false) ∧ ∀ c ∈ t.getLast?, isBlank c = false

theorem stripStart_append {gap : Text} (h : gap.Blank) (t : Text) :
    stripStart (gap ++ t) = stripStart t := List.dropWhile_append_of_pos h

theorem stripEnd_append {gap : Text} (h : gap.Blank) (t : Text) :
    stripEnd (t ++ gap) = stripEnd t := by
  have hreverse : ∀ c ∈ gap.reverse, isBlank c = true := fun c hc => h c (List.mem_reverse.mp hc)
  rw [stripEnd, List.reverse_append, List.dropWhile_append_of_pos hreverse, stripEnd]

private theorem dropWhile_eq_self {t : Text} (h : ∀ c ∈ t.head?, isBlank c = false) :
    t.dropWhile isBlank = t := by
  cases t with
  | nil => rfl
  | cons c t => exact List.dropWhile_cons_of_neg (by simpa using h c)

/-- A text without blanks at its ends is what is left of it with blanks around it. -/
theorem strip_of_isStripped {g t h : Text} (hg : g.Blank) (ht : t.IsStripped) (hh : h.Blank) :
    strip (g ++ t ++ h) = t := by
  have hend : stripEnd t = t := by
    rw [stripEnd, dropWhile_eq_self, List.reverse_reverse]
    simpa using ht.2
  rw [strip, List.append_assoc, stripStart_append hg]
  cases t with
  | nil =>
      have hnil : stripStart h = [] := by simpa [stripStart] using stripStart_append hh []
      rw [List.nil_append, hnil]
      rfl
  | cons c t =>
      have hstart : stripStart (c :: t ++ h) = c :: t ++ h :=
        dropWhile_eq_self (by simpa using ht.1)
      rw [hstart, stripEnd_append hh, hend]

/-- Every text is one without blanks at its ends, between two gaps. -/
theorem exists_isStripped (t : Text) : ∃ g s h : Text,
    g.Blank ∧ s.IsStripped ∧ h.Blank ∧ t = g ++ s ++ h := by
  obtain ⟨g, rest, hg, hrest, rfl⟩ := exists_span isBlank t
  obtain ⟨tail, core, htail, hcore, hrev⟩ := exists_span isBlank rest.reverse
  have hsplit : rest = core.reverse ++ tail.reverse := by
    rw [← List.reverse_append, ← hrev, List.reverse_reverse]
  refine ⟨g, core.reverse, tail.reverse, hg, ⟨?_, by simpa using hcore⟩,
    fun c hc => htail c (List.mem_reverse.mp hc), by rw [List.append_assoc, ← hsplit]⟩
  intro c hc
  apply hrest
  rw [hsplit, List.head?_append, Option.mem_def.mp hc]
  rfl

/-- Stripping takes off the blanks at the two ends, all of them and nothing else. -/
theorem strip_eq_iff {t s : Text} :
    strip t = s ↔ s.IsStripped ∧ ∃ g h : Text, g.Blank ∧ h.Blank ∧ t = g ++ s ++ h := by
  constructor
  · rintro rfl
    obtain ⟨g, s, h, hg, hs, hh, rfl⟩ := exists_isStripped t
    rw [strip_of_isStripped hg hs hh]
    exact ⟨hs, g, h, hg, hh, rfl⟩
  · rintro ⟨hs, g, h, hg, hh, rfl⟩
    exact strip_of_isStripped hg hs hh

/-- Blanks at the ends make no difference. -/
theorem strip_append {g h : Text} (hg : g.Blank) (hh : h.Blank) (t : Text) :
    strip (g ++ t ++ h) = strip t := by
  obtain ⟨hs, g', h', hg', hh', ht⟩ := strip_eq_iff.mp (rfl : strip t = strip t)
  refine strip_eq_iff.mpr ⟨hs, g ++ g', h' ++ h, blank_append_iff.mpr ⟨hg, hg'⟩,
    blank_append_iff.mpr ⟨hh', hh⟩, ?_⟩
  conv => lhs; rw [ht]
  simp only [List.append_assoc]

theorem strip_eq_nil_iff {t : Text} : strip t = [] ↔ t.Blank := by
  rw [strip_eq_iff]
  constructor
  · rintro ⟨-, g, h, hg, hh, rfl⟩
    simpa [blank_append_iff] using ⟨hg, hh⟩
  · intro ht
    exact ⟨by simp [IsStripped], t, [], ht, blank_nil, by simp⟩

/-- Stripping loses no word. -/
theorem words_strip (t : Text) : words (strip t) = words t := by
  obtain ⟨-, g, h, hg, hh, ht⟩ := strip_eq_iff.mp (rfl : strip t = strip t)
  conv => rhs; rw [ht, words_append_right hh, words_append_left hg]

end UserDb.Text
