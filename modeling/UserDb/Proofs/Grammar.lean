import Mathlib.Algebra.Group.Nat.Defs
import UserDb.Row.Parser
import UserDb.Row.Spelling

/-!
# What an argument spells

`Row.parse` looks at the words of its text only, whereas `Row.Spells` takes the
whole text apart into gaps and fields.  This file identifies the two: the words
of a text are three exactly when the text is three words between four gaps
(`words_eq_three_iff`), and the reader's checks on three words are the
conditions of a well-formed spelling.

The faults of the reader are sorted here too, because which fields are looked
at before a number is found too long decides whether a session survives.

## Main results

* `parse_eq_ok_iff_spells`: the reader accepts exactly the spellings.
* `parse_eq_error_limit_iff`: it goes past the digit limit exactly when the
  first word is a numeral of too many characters, whatever follows it.
* `limit_or_column_of_parse_eq_error`: every other fault is that of a column.
* `valid_of_spells`: only valid rows are spelled.
-/

namespace UserDb

/-! ## Three words -/

namespace Text

/-- A gap that leads to a word in a text that starts with a blank is not empty:
the word itself has no blank to start with. -/
theorem gap_ne_nil_of_startsBlank {gap word rest : Text} (hword : word.IsWord)
    (h : StartsBlank (gap ++ word ++ rest)) : gap ≠ [] := by
  intro hgap
  subst hgap
  obtain ⟨c, others, rfl⟩ := List.exists_cons_of_ne_nil hword.1
  have hblank : isBlank c = true := h c (by simp)
  have hnone : isBlank c = false := hword.2 c (by simp)
  simp [hblank] at hnone

theorem startsBlank_of_blank {gap : Text} (h : gap.Blank) : StartsBlank gap := by
  intro c hc
  exact h c (List.mem_of_mem_head? hc)

theorem startsBlank_append {gap : Text} (h : gap.Blank) (hne : gap ≠ []) (t : Text) :
    StartsBlank (gap ++ t) := by
  obtain ⟨c, others, rfl⟩ := List.exists_cons_of_ne_nil hne
  intro d hd
  have hcd : c = d := by simpa using hd
  exact h d (by simp [hcd])

/-- A blank at the start of a text separates its words from those in front. -/
theorem words_append_startsBlank {t : Text} (h : t.StartsBlank) (s : Text) :
    words (s ++ t) = words s ++ words t := by
  cases t with
  | nil => simp
  | cons c t =>
      have hc : isBlank c = true := h c rfl
      have hgap : Blank [c] := by simpa [Blank] using hc
      rw [words_append_cons hc]
      exact congrArg (words s ++ ·) (words_append_left hgap t).symm

/-- A text has exactly three words when it is these, with gaps before, between
and after them.  The gaps at the ends may be empty, those between may not. -/
theorem words_eq_three_iff {t a b c : Text} :
    words t = [a, b, c] ↔ a.IsWord ∧ b.IsWord ∧ c.IsWord ∧
      ∃ before gap₁ gap₂ after : Text, before.Blank ∧ gap₁.Blank ∧ gap₁ ≠ [] ∧
        gap₂.Blank ∧ gap₂ ≠ [] ∧ after.Blank ∧
        t = before ++ a ++ gap₁ ++ b ++ gap₂ ++ c ++ after := by
  constructor
  · intro h
    obtain ⟨before, rest₁, hbefore, ha, hrest₁, hwords₁, rfl⟩ := words_eq_cons_iff.mp h
    obtain ⟨gap₁, rest₂, hgap₁, hb, hrest₂, hwords₂, rfl⟩ := words_eq_cons_iff.mp hwords₁
    obtain ⟨gap₂, after, hgap₂, hc, -, hwords₃, rfl⟩ := words_eq_cons_iff.mp hwords₂
    exact ⟨ha, hb, hc, before, gap₁, gap₂, after, hbefore, hgap₁,
      gap_ne_nil_of_startsBlank hb hrest₁, hgap₂, gap_ne_nil_of_startsBlank hc hrest₂,
      words_eq_nil_iff.mp hwords₃, by simp only [List.append_assoc]⟩
  · intro h
    rcases h with
      ⟨ha, hb, hc, before, gap₁, gap₂, after, hbefore, hgap₁, hne₁, hgap₂, hne₂, hafter, rfl⟩
    have hlast : words (gap₂ ++ c ++ after) = [c] := by
      rw [words_gap_word hgap₂ hc (startsBlank_of_blank hafter), words_eq_nil hafter]
    have hmiddle : words (gap₁ ++ b ++ (gap₂ ++ c ++ after)) = [b, c] := by
      rw [words_gap_word hgap₁ hb (by
        simpa only [List.append_assoc] using startsBlank_append hgap₂ hne₂ (c ++ after)), hlast]
    have hall : words (before ++ a ++ (gap₁ ++ b ++ (gap₂ ++ c ++ after))) = [a, b, c] := by
      rw [words_gap_word hbefore ha (by
        simpa only [List.append_assoc] using
          startsBlank_append hgap₁ hne₁ (b ++ (gap₂ ++ c ++ after))), hmiddle]
    simpa only [List.append_assoc] using hall

/-- No digit is a blank. -/
theorem isBlank_eq_false_of_isDigit {c : Char} (h : c.isDigit = true) : isBlank c = false := by
  obtain ⟨hlo, hhi⟩ := Numeral.toNat_of_isDigit h
  exact CodeRanges.contains_eq_false_of_gap (by decide) hlo hhi

theorem isWord_of_isNumeral {t : Text} (h : Numeral.isNumeral t = true) : t.IsWord := by
  obtain ⟨hne, hdigits⟩ := Numeral.isNumeral_iff.mp h
  exact ⟨hne, fun c hc => isBlank_eq_false_of_isDigit (hdigits c hc)⟩

end Text

namespace Numeral

/-- A numeral is worth less than the first number with one digit more.  Leading
zeros only make this easier. -/
theorem value_lt_pow_length {t : Text} (h : ∀ c ∈ t, c.isDigit = true) :
    value t < 10 ^ t.length := by
  induction t with
  | nil => decide
  | cons c t ih =>
      have hc : c.toNat - '0'.toNat ≤ 9 := by
        obtain ⟨-, hhi⟩ := toNat_of_isDigit (h c (by simp))
        have hzero : '0'.toNat = 48 := rfl
        omega
      have hrest : Nat.ofDigitChars 10 t 0 < 10 ^ t.length := ih fun d hd => h d (by simp [hd])
      calc
        value (c :: t) =
            10 ^ t.length * (c.toNat - '0'.toNat) + Nat.ofDigitChars 10 t 0 := by
          rw [value, Nat.ofDigitChars_cons, Nat.ofDigitChars_eq_ofDigitChars_zero,
            Nat.mul_zero, Nat.zero_add]
        _ < 10 ^ t.length * (c.toNat - '0'.toNat) + 10 ^ t.length := by omega
        _ = 10 ^ t.length * (c.toNat - '0'.toNat + 1) := (Nat.mul_succ _ _).symm
        _ ≤ 10 ^ t.length * 10 := Nat.mul_le_mul_left _ (by omega)
        _ = 10 ^ (c :: t).length := (Nat.pow_succ ..).symm

/-- So it is not longer when it is written without leading zeros. -/
theorem length_ofNat_value_le {t : Text} (h : isNumeral t = true) :
    (ofNat (value t)).length ≤ t.length := by
  obtain ⟨hne, hdigits⟩ := isNumeral_iff.mp h
  have hpos : 0 < t.length := List.length_pos_iff.mpr hne
  exact (Nat.length_toDigits_le_iff (by decide) hpos).mpr (value_lt_pow_length hdigits)

end Numeral

namespace Row

/-! ## The checks on the words -/

/-- A numeral within the limit is read as what it is worth. -/
theorem readId_of_length_le {word : Text} (others : List Text)
    (hn : Numeral.isNumeral word = true) (hl : word.length ≤ Numeral.maxDigits) :
    readId (word :: others) = .ok (Numeral.value word) := by
  rw [readId, if_pos hn, Numeral.read_eq_ok_iff.mpr ⟨hl, rfl⟩]
  rfl

/-- A longer one is not a matter of its column. -/
theorem readId_of_maxDigits_lt {word : Text} (others : List Text)
    (hn : Numeral.isNumeral word = true) (hl : Numeral.maxDigits < word.length) :
    readId (word :: others) = .error (.limit (.reading word.length)) := by
  rw [readId, if_pos hn, Numeral.read_eq_error_iff.mpr ⟨hl, rfl⟩]
  rfl

theorem readId_eq_ok_iff {words : List Text} {id : Nat} :
    readId words = .ok id ↔ ∃ word others, words = word :: others ∧
      Numeral.isNumeral word = true ∧ word.length ≤ Numeral.maxDigits ∧
        Numeral.value word = id := by
  cases words with
  | nil => simp [readId, Fault.column]
  | cons word others =>
      cases hn : Numeral.isNumeral word with
      | false => simp [readId, hn]
      | true =>
          by_cases hl : word.length ≤ Numeral.maxDigits
          · rw [readId_of_length_le others hn hl]
            simp [hn, hl]
          · rw [readId_of_maxDigits_lt others hn (by omega)]
            simp [hl]

theorem readId_eq_error_iff {words : List Text} {f : Fault} :
    readId words = .error f ↔
      (∃ word others, words = word :: others ∧ Numeral.isNumeral word = true ∧
        Numeral.maxDigits < word.length ∧ .limit (.reading word.length) = f) ∨
      ((∀ word ∈ words.head?, Numeral.isNumeral word = false) ∧ .column .id = f) := by
  cases words with
  | nil => simp [readId]
  | cons word others =>
      cases hn : Numeral.isNumeral word with
      | false => simp [readId, hn]
      | true =>
          by_cases hl : word.length ≤ Numeral.maxDigits
          · have hshort : ¬ Numeral.maxDigits < word.length := by omega
            rw [readId_of_length_le others hn hl]
            simp [hn, hshort]
          · have hlong : Numeral.maxDigits < word.length := by omega
            rw [readId_of_maxDigits_lt others hn hlong]
            simp [hn, hlong]

theorem readUsername_eq_ok_iff {words : List Text} {username : Text} :
    readUsername words = .ok username ↔ ∃ first others, words = first :: username :: others ∧
      username.length ≤ usernameSize := by
  match words with
  | [] => simp [readUsername]
  | [_] => simp [readUsername]
  | _ :: word :: _ =>
      by_cases hl : word.length ≤ usernameSize
      · have hfits : word = username → username.length ≤ usernameSize := by
          intro heq
          rw [← heq]
          exact hl
        simpa [readUsername, hl] using hfits
      · have hlong : word = username → usernameSize < username.length := by
          intro heq
          rw [← heq]
          omega
        simpa [readUsername, hl] using hlong

theorem readUsername_eq_error {words : List Text} {f : Fault}
    (h : readUsername words = .error f) : f = .column .username := by
  unfold readUsername at h
  split at h
  · split at h
    · cases h
    · cases h
      rfl
  · cases h
    rfl

theorem readEmail_eq_ok_iff {words : List Text} {email : Text} :
    readEmail words = .ok email ↔ ∃ first second, words = [first, second, email] ∧
      email.length ≤ emailSize := by
  match words with
  | [] => simp [readEmail]
  | [_] => simp [readEmail]
  | [_, _] => simp [readEmail]
  | [_, _, word] =>
      by_cases hl : word.length ≤ emailSize
      · have hfits : word = email → email.length ≤ emailSize := by
          intro heq
          rw [← heq]
          exact hl
        simpa [readEmail, hl] using hfits
      · have hlong : word = email → emailSize < email.length := by
          intro heq
          rw [← heq]
          omega
        simpa [readEmail, hl] using hlong
  | _ :: _ :: _ :: _ :: _ => simp [readEmail]

theorem readEmail_eq_error {words : List Text} {f : Fault}
    (h : readEmail words = .error f) : f = .column .email := by
  unfold readEmail at h
  split at h
  · split at h
    · cases h
    · cases h
      rfl
  · cases h
    rfl

/-! ## The whole row -/

private theorem bind_eq_ok_iff {ε α β : Type} {x : Except ε α} {f : α → Except ε β} {b : β} :
    x >>= f = .ok b ↔ ∃ a, x = .ok a ∧ f a = .ok b := by
  cases x <;> simp [bind, Except.bind]

private theorem bind_eq_error_iff {ε α β : Type} {x : Except ε α} {f : α → Except ε β} {e : ε} :
    x >>= f = .error e ↔ x = .error e ∨ ∃ a, x = .ok a ∧ f a = .error e := by
  cases x <;> simp [bind, Except.bind]

/-- A row is read when each of its three fields is. -/
theorem parse_eq_ok_iff_reads {text : Text} {row : Row} :
    parse text = .ok row ↔ ∃ id : Nat, readId text.words = .ok id ∧
      ∃ username, readUsername text.words = .ok username ∧
        ∃ email, readEmail text.words = .ok email ∧ ⟨id, username, email⟩ = row := by
  simp only [parse, ofWords, bind_eq_ok_iff, pure, Except.pure, Except.ok.injEq]

/-- The fields are read in order, and the first that cannot be read is the one
that is reported. -/
theorem parse_eq_error_iff_reads {text : Text} {f : Fault} :
    parse text = .error f ↔ readId text.words = .error f ∨
      ∃ id, readId text.words = .ok id ∧ (readUsername text.words = .error f ∨
        ∃ username, readUsername text.words = .ok username ∧ readEmail text.words = .error f) := by
  simp only [parse, ofWords, bind_eq_error_iff, pure, Except.pure, reduceCtorEq, and_false,
    exists_false, or_false]

/-- A row is read from three words that pass the checks of their columns. -/
theorem parse_eq_ok_iff_words {text : Text} {row : Row} :
    parse text = .ok row ↔ ∃ id username email, text.words = [id, username, email] ∧
      Numeral.isNumeral id = true ∧ id.length ≤ Numeral.maxDigits ∧
        username.length ≤ usernameSize ∧ email.length ≤ emailSize ∧
          ⟨Numeral.value id, username, email⟩ = row := by
  rw [parse_eq_ok_iff_reads]
  constructor
  · intro h
    rcases h with ⟨n, hid, username, husername, email, hemail, rfl⟩
    obtain ⟨id, others, hwords, hnumeral, hdigits, rfl⟩ := readId_eq_ok_iff.mp hid
    obtain ⟨first, others', hwords', hsize⟩ := readUsername_eq_ok_iff.mp husername
    obtain ⟨first', second, hwords'', hsize'⟩ := readEmail_eq_ok_iff.mp hemail
    rw [hwords'', List.cons.injEq] at hwords hwords'
    obtain ⟨rfl, rfl⟩ := hwords
    obtain ⟨rfl, hsecond⟩ := hwords'
    obtain ⟨rfl, -⟩ := List.cons.inj hsecond
    exact ⟨first', second, email, hwords'', hnumeral, hdigits, hsize, hsize', rfl⟩
  · intro h
    rcases h with ⟨id, username, email, hwords, hnumeral, hdigits, hsize, hsize', rfl⟩
    exact ⟨Numeral.value id, readId_eq_ok_iff.mpr ⟨id, _, hwords, hnumeral, hdigits, rfl⟩,
      username, readUsername_eq_ok_iff.mpr ⟨id, _, hwords, hsize⟩,
      email, readEmail_eq_ok_iff.mpr ⟨id, username, hwords, hsize'⟩, rfl⟩

/-- The reader accepts exactly the spellings, and gives the row they mean. -/
theorem parse_eq_ok_iff_spells {text : Text} {row : Row} :
    parse text = .ok row ↔ Spells text row := by
  rw [parse_eq_ok_iff_words]
  constructor
  · intro h
    rcases h with ⟨id, username, email, hwords, hnumeral, hdigits, hsize, hsize', rfl⟩
    obtain ⟨-, husername, hemail, before, gap₁, gap₂, after, hbefore, hgap₁, hne₁, hgap₂, hne₂,
      hafter, rfl⟩ := Text.words_eq_three_iff.mp hwords
    exact ⟨⟨before, id, gap₁, username, gap₂, email, after⟩,
      ⟨hbefore, hnumeral, hdigits, hgap₁, hne₁, husername, hsize, hgap₂, hne₂, hemail, hsize',
        hafter⟩, rfl, rfl⟩
  · intro h
    rcases h with ⟨s, hs, rfl, rfl⟩
    have hid : s.id.IsWord := Text.isWord_of_isNumeral hs.id
    have hwords : s.text.words = [s.id, s.username, s.email] :=
      Text.words_eq_three_iff.mpr ⟨hid, hs.username, hs.email, s.before, s.gap₁, s.gap₂, s.after,
        hs.before, hs.gap₁, hs.gap₁_ne_nil, hs.gap₂, hs.gap₂_ne_nil, hs.after, rfl⟩
    exact ⟨s.id, s.username, s.email, hwords, hs.id, hs.id_length, hs.username_length,
      hs.email_length, rfl⟩

theorem toOption_parse_eq_some_iff {text : Text} {row : Row} :
    (parse text).toOption = some row ↔ Spells text row := by
  rw [← parse_eq_ok_iff_spells]
  cases parse text <;> simp [Except.toOption]

/-- The digit limit is exceeded exactly when the first word is a numeral of too
many characters.  Nothing else of the text is looked at before. -/
theorem parse_eq_error_limit_iff {text : Text} {e : Numeral.LimitError} :
    parse text = .error (.limit e) ↔ ∃ word others, text.words = word :: others ∧
      Numeral.isNumeral word = true ∧ Numeral.maxDigits < word.length ∧
        .reading word.length = e := by
  rw [parse_eq_error_iff_reads]
  constructor
  · intro h
    rcases h with hid | ⟨id, -, husername | ⟨username, -, hemail⟩⟩
    · rcases readId_eq_error_iff.mp hid with ⟨word, others, hwords, hn, hl, he⟩ | ⟨-, hcolumn⟩
      · exact ⟨word, others, hwords, hn, hl, Fault.limit.inj he⟩
      · cases hcolumn
    · cases readUsername_eq_error husername
    · cases readEmail_eq_error hemail
  · intro h
    rcases h with ⟨word, others, hwords, hn, hl, rfl⟩
    exact .inl (readId_eq_error_iff.mpr (.inl ⟨word, others, hwords, hn, hl, rfl⟩))

/-- Whatever is wrong with a text apart from the digit limit, it is a column that
cannot be read. -/
theorem limit_or_column_of_parse_eq_error {text : Text} {f : Fault} (h : parse text = .error f) :
    (∃ e, f = .limit e) ∨ ∃ column, f = .column column := by
  rcases parse_eq_error_iff_reads.mp h with hid | ⟨id, -, husername | ⟨username, -, hemail⟩⟩
  · rcases readId_eq_error_iff.mp hid with ⟨word, others, -, -, -, rfl⟩ | ⟨-, rfl⟩
    · exact .inl ⟨_, rfl⟩
    · exact .inr ⟨_, rfl⟩
  · exact .inr ⟨_, readUsername_eq_error husername⟩
  · exact .inr ⟨_, readEmail_eq_error hemail⟩

/-! ## Valid rows -/

theorem valid_of_spells {text : Text} {row : Row} (h : Spells text row) : row.Valid := by
  obtain ⟨s, hs, rfl, rfl⟩ := h
  have hwritable : Numeral.Writable (Numeral.value s.id) :=
    Nat.le_trans (Numeral.length_ofNat_value_le hs.id) hs.id_length
  exact
    { id_nonneg := Int.natCast_nonneg _
      id_writable := hwritable
      username := hs.username
      username_length := hs.username_length
      email := hs.email
      email_length := hs.email_length }

end Row

end UserDb
