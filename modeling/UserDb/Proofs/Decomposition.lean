import UserDb.Proofs.Grammar

/-!
# An argument is taken apart in one way

The reader of an argument accepts its spellings, and `Row.Spells` asks for some
spelling only.  There is never a choice.  Gaps are blank and words are not, so where one
ends and the other begins is decided by the characters alone: a gap goes as far as there
are blanks, and a word as far as there are none (`Text.gap_word_inj`).  Peeling a gap and
a word off both sides, three times, shows that two spellings of one text are the same
(`Row.Spelling.WellFormed.eq_of_text_eq`).

## Main results

* `Text.span_inj`: where a run of characters ends.
* `Row.Spelling.WellFormed.eq_of_text_eq`: a text has at most one spelling.
* `Row.parse_decomposes`: the reader accepts a text exactly if it has one, and gives the
  row that this one means.
-/

namespace UserDb

/-! ## Gaps and words apart -/

namespace Text

private theorem takeWhile_append {p : Char → Bool} {run rest : Text}
    (hrun : ∀ c ∈ run, p c = true) (hrest : ∀ c ∈ rest.head?, p c = false) :
    (run ++ rest).takeWhile p = run := by
  rw [List.takeWhile_append_of_pos hrun]
  cases rest with
  | nil => exact List.append_nil _
  | cons c rest =>
      have hc : p c = false := hrest c rfl
      rw [List.takeWhile_cons_of_neg (by simp [hc]), List.append_nil]

/-- A text begins with one run of characters satisfying `p`, if the run is to go as far as
there are such characters. -/
theorem span_inj {p : Char → Bool} {run rest run' rest' : Text}
    (hrun : ∀ c ∈ run, p c = true) (hrest : ∀ c ∈ rest.head?, p c = false)
    (hrun' : ∀ c ∈ run', p c = true) (hrest' : ∀ c ∈ rest'.head?, p c = false)
    (h : run ++ rest = run' ++ rest') : run = run' ∧ rest = rest' := by
  have hruns : run = run' := by
    rw [← takeWhile_append hrun hrest, h, takeWhile_append hrun' hrest']
  rw [hruns, List.append_cancel_left_eq] at h
  exact ⟨hruns, h⟩

theorem IsWord.not_startsBlank {word : Text} (h : word.IsWord) (rest : Text) :
    ∀ c ∈ (word ++ rest).head?, isBlank c = false := by
  obtain ⟨c, others, rfl⟩ := List.exists_cons_of_ne_nil h.1
  intro d hd
  have hcd : c = d := by simpa using hd
  exact h.2 d (by simp [hcd])

/-- A gap, a word and what does not go on with the word are known from the whole. -/
theorem gap_word_inj {gap word rest gap' word' rest' : Text}
    (hgap : gap.Blank) (hword : word.IsWord) (hrest : rest.StartsBlank)
    (hgap' : gap'.Blank) (hword' : word'.IsWord) (hrest' : rest'.StartsBlank)
    (h : gap ++ (word ++ rest) = gap' ++ (word' ++ rest')) :
    gap = gap' ∧ word = word' ∧ rest = rest' := by
  obtain ⟨hgaps, hothers⟩ := span_inj hgap (hword.not_startsBlank rest) hgap'
    (hword'.not_startsBlank rest') h
  have hletters : ∀ c ∈ word, (!isBlank c) = true := by simpa using hword.2
  have hletters' : ∀ c ∈ word', (!isBlank c) = true := by simpa using hword'.2
  have hends : ∀ c ∈ rest.head?, (!isBlank c) = false := by simpa [StartsBlank] using hrest
  have hends' : ∀ c ∈ rest'.head?, (!isBlank c) = false := by simpa [StartsBlank] using hrest'
  exact ⟨hgaps, span_inj hletters hends hletters' hends' hothers⟩

end Text

/-! ## Spellings -/

namespace Row

namespace Spelling

/-- A well-formed spelling in numbers: two gaps that may be empty and two that may not, 1 to
4300 digits, and two words of 1 to 32 and of 1 to 255 characters. -/
theorem wellFormed_iff {s : Spelling} : s.WellFormed ↔
    (s.before.Blank ∧ s.gap₁.Blank ∧ s.gap₂.Blank ∧ s.after.Blank) ∧
    (1 ≤ s.gap₁.length ∧ 1 ≤ s.gap₂.length) ∧
    (1 ≤ s.id.length ∧ s.id.length ≤ 4300 ∧ ∀ c ∈ s.id, c.isDigit = true) ∧
    (1 ≤ s.username.length ∧ s.username.length ≤ 32 ∧
      ∀ c ∈ s.username, Text.isBlank c = false) ∧
    (1 ≤ s.email.length ∧ s.email.length ≤ 255 ∧ ∀ c ∈ s.email, Text.isBlank c = false) := by
  have hne : ∀ t : Text, 1 ≤ t.length ↔ t ≠ [] := fun _ => List.length_pos_iff
  simp only [hne]
  constructor
  · intro h
    obtain ⟨hid, hdigits⟩ := Numeral.isNumeral_iff.mp h.id
    exact ⟨⟨h.before, h.gap₁, h.gap₂, h.after⟩, ⟨h.gap₁_ne_nil, h.gap₂_ne_nil⟩,
      ⟨hid, h.id_length, hdigits⟩, ⟨h.username.1, h.username_length, h.username.2⟩,
      h.email.1, h.email_length, h.email.2⟩
  · intro h
    obtain ⟨⟨hbefore, hgap₁, hgap₂, hafter⟩, ⟨hne₁, hne₂⟩, ⟨hid, hlength, hdigits⟩,
      ⟨husername, husize, huletters⟩, hemail, hesize, heletters⟩ := h
    exact
      { before := hbefore
        id := Numeral.isNumeral_iff.mpr ⟨hid, hdigits⟩
        id_length := hlength
        gap₁ := hgap₁
        gap₁_ne_nil := hne₁
        username := ⟨husername, huletters⟩
        username_length := husize
        gap₂ := hgap₂
        gap₂_ne_nil := hne₂
        email := ⟨hemail, heletters⟩
        email_length := hesize
        after := hafter }

theorem text_eq (s : Spelling) : s.text =
    s.before ++ (s.id ++ (s.gap₁ ++ (s.username ++ (s.gap₂ ++ (s.email ++ s.after))))) := by
  simp only [text, List.append_assoc]

/-- A text has at most one spelling. -/
theorem WellFormed.eq_of_text_eq {s s' : Spelling} (hs : s.WellFormed) (hs' : s'.WellFormed)
    (h : s.text = s'.text) : s = s' := by
  rw [text_eq, text_eq] at h
  obtain ⟨hbefore, hid, h₁⟩ := Text.gap_word_inj
    hs.before (Text.isWord_of_isNumeral hs.id) (Text.startsBlank_append hs.gap₁ hs.gap₁_ne_nil _)
    hs'.before (Text.isWord_of_isNumeral hs'.id)
    (Text.startsBlank_append hs'.gap₁ hs'.gap₁_ne_nil _) h
  obtain ⟨hgap₁, husername, h₂⟩ := Text.gap_word_inj
    hs.gap₁ hs.username (Text.startsBlank_append hs.gap₂ hs.gap₂_ne_nil _)
    hs'.gap₁ hs'.username (Text.startsBlank_append hs'.gap₂ hs'.gap₂_ne_nil _) h₁
  obtain ⟨hgap₂, hemail, hafter⟩ := Text.gap_word_inj
    hs.gap₂ hs.email (Text.startsBlank_of_blank hs.after)
    hs'.gap₂ hs'.email (Text.startsBlank_of_blank hs'.after) h₂
  cases s
  cases s'
  simp_all only

end Spelling

/-- The reader and the grammar of an argument.  What may be a spelling is said in numbers.
A row is read exactly if there is a spelling, and then there is no other, and the row
has the value of its first field and the other two as they stand. -/
theorem parse_decomposes (text : Text) :
    (∀ s : Spelling, s.WellFormed ↔
      (s.before.Blank ∧ s.gap₁.Blank ∧ s.gap₂.Blank ∧ s.after.Blank) ∧
      (1 ≤ s.gap₁.length ∧ 1 ≤ s.gap₂.length) ∧
      (1 ≤ s.id.length ∧ s.id.length ≤ 4300 ∧ ∀ c ∈ s.id, c.isDigit = true) ∧
      (1 ≤ s.username.length ∧ s.username.length ≤ 32 ∧
        ∀ c ∈ s.username, Text.isBlank c = false) ∧
      (1 ≤ s.email.length ∧ s.email.length ≤ 255 ∧ ∀ c ∈ s.email, Text.isBlank c = false)) ∧
    ((∃ row, parse text = .ok row) ↔ ∃ s : Spelling, s.WellFormed ∧ s.text = text) ∧
    ∀ s : Spelling, s.WellFormed → s.text = text →
      parse text = .ok ⟨Numeral.value s.id, s.username, s.email⟩ ∧
        ∀ s' : Spelling, s'.WellFormed → s'.text = text → s' = s := by
  refine ⟨fun s => Spelling.wellFormed_iff, ?_, ?_⟩
  · constructor
    · intro h
      obtain ⟨row, hrow⟩ := h
      obtain ⟨s, hs, htext, -⟩ := parse_eq_ok_iff_spells.mp hrow
      exact ⟨s, hs, htext⟩
    · intro h
      obtain ⟨s, hs, htext⟩ := h
      exact ⟨s.row, parse_eq_ok_iff_spells.mpr ⟨s, hs, htext, rfl⟩⟩
  · intro s hs htext
    refine ⟨parse_eq_ok_iff_spells.mpr ⟨s, hs, htext, rfl⟩, ?_⟩
    intro s' hs' htext'
    exact hs'.eq_of_text_eq hs (htext'.trans htext.symm)

/-- Each gap of this text is of other blanks, the number has leading zeros, and the characters
that look empty belong to the fields. -/
theorem parse_decomposes_odd_blanks :
    (⟨"\u3000".toList, "007".toList, "\u00a0\x1f".toList, "b\u200bb".toList, "\u2028".toList,
        "\ufeffb@x\u180e".toList, "\r\n".toList⟩ : Spelling).WellFormed ∧
      parse "\u3000007\u00a0\x1fb\u200bb\u2028\ufeffb@x\u180e\r\n".toList =
        .ok ⟨7, "b\u200bb".toList, "\ufeffb@x\u180e".toList⟩ := by
  obtain ⟨-, -, hparse⟩ :=
    parse_decomposes "\u3000007\u00a0\x1fb\u200bb\u2028\ufeffb@x\u180e\r\n".toList
  have hs : (⟨"\u3000".toList, "007".toList, "\u00a0\x1f".toList, "b\u200bb".toList,
      "\u2028".toList, "\ufeffb@x\u180e".toList, "\r\n".toList⟩ : Spelling).WellFormed := by
    constructor <;> decide
  have hrow := (hparse _ hs rfl).1
  exact ⟨hs, hrow⟩

end Row

end UserDb
