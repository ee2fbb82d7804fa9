import UserDb.Proofs.StoredRows

/-!
# The canonical form of an argument

An argument may spell its row in many ways: with other blanks, and with zeros in front of
the number.  One of these ways is written from the row itself, `Row.canonical`, and it
stands for all of them.  It is accepted wherever one of the others is, it means the same
row, and two arguments have the same one exactly if they mean the same row.

What is to be shown for this is about numbers.  Reading and writing in base ten undo each
other in both directions: a number is the value of the numeral that it is written as, and
a numeral is what its value is written as, apart from the zeros in front of it
(`Numeral.ofNat_value`).  The second is proved along the digits.  A digit that follows a
number other than zero is put behind the digits of this number, and zeros in front only
keep the number at zero.

## Main results

* `Numeral.ofNat_value`: the value of a numeral is written as the numeral without the
  zeros in front.
* `Row.canonical_eq_of_parse`: the canonical form next to the argument as it was typed.
* `Row.parse_canonical_form`: all of it.
-/

namespace UserDb

namespace Numeral

/-! ## Zeros in front -/

/-- The numeral without the zeros in front of it, of which one is kept if there is nothing
else. -/
def withoutZeros (t : Text) : Text :=
  let digits := t.dropWhile (· == '0')
  if digits = [] then ['0'] else digits

@[simp] theorem withoutZeros_zero_cons (t : Text) : withoutZeros ('0' :: t) = withoutZeros t := rfl

theorem withoutZeros_cons_of_ne {c : Char} (h : c ≠ '0') (t : Text) :
    withoutZeros (c :: t) = c :: t := by
  have hdrop : (c :: t).dropWhile (· == '0') = c :: t :=
    List.dropWhile_cons_of_neg (by simpa using h)
  rw [withoutZeros, hdrop]
  exact if_neg (List.cons_ne_nil c t)

/-- A digit is the one character of what it is worth. -/
theorem ofNat_digit {c : Char} (h : c.isDigit = true) :
    c.toNat - '0'.toNat < 10 ∧ ofNat (c.toNat - '0'.toNat) = [c] := by
  obtain ⟨hlo, hhi⟩ := toNat_of_isDigit h
  have hzero : '0'.toNat = 48 := rfl
  have hlt : c.toNat - '0'.toNat < 10 := by omega
  refine ⟨hlt, ?_⟩
  have hc : Nat.digitChar (c.toNat - '0'.toNat) = c := by
    apply Char.toNat_inj.mp
    rw [Nat.toNat_digitChar_of_lt_ten hlt]
    omega
  rw [ofNat, Nat.toDigits_of_lt_base hlt, hc]

/-- The digits that are read behind a number other than zero are written behind it. -/
theorem ofNat_ofDigitChars {t : Text} (h : ∀ c ∈ t, c.isDigit = true) {n : Nat} (hn : 0 < n) :
    ofNat (Nat.ofDigitChars 10 t n) = ofNat n ++ t := by
  induction t generalizing n with
  | nil => exact (List.append_nil _).symm
  | cons c t ih =>
      obtain ⟨hlt, hc⟩ := ofNat_digit (h c (by simp))
      have hrest : ∀ d ∈ t, d.isDigit = true := fun d hd => h d (by simp [hd])
      have hpos : 0 < 10 * n + (c.toNat - '0'.toNat) := by omega
      calc
        ofNat (Nat.ofDigitChars 10 (c :: t) n) =
            ofNat (Nat.ofDigitChars 10 t (10 * n + (c.toNat - '0'.toNat))) := by
          rw [Nat.ofDigitChars_cons]
        _ = ofNat (10 * n + (c.toNat - '0'.toNat)) ++ t := ih hrest hpos
        _ = ofNat n ++ ofNat (c.toNat - '0'.toNat) ++ t := by
          rw [ofNat, ← Nat.toDigits_append_toDigits (by decide) hn hlt]
          rfl
        _ = ofNat n ++ c :: t := by rw [hc, List.append_assoc, List.singleton_append]

/-- A numeral is what its value is written as, apart from the zeros in front. -/
theorem ofNat_value {t : Text} (h : ∀ c ∈ t, c.isDigit = true) :
    ofNat (value t) = withoutZeros t := by
  induction t with
  | nil => rfl
  | cons c t ih =>
      have hrest : ∀ d ∈ t, d.isDigit = true := fun d hd => h d (by simp [hd])
      by_cases hc : c = '0'
      · subst hc
        rw [withoutZeros_zero_cons, ← ih hrest]
        rfl
      · obtain ⟨-, hdigit⟩ := ofNat_digit (h c (by simp))
        have hpos : 0 < c.toNat - '0'.toNat := by
          apply Nat.pos_of_ne_zero
          intro hworth
          rw [hworth] at hdigit
          have heq : '0' = c := List.head_eq_of_cons_eq hdigit
          exact hc heq.symm
        rw [withoutZeros_cons_of_ne hc, value, Nat.ofDigitChars_cons, Nat.mul_zero, Nat.zero_add,
          ofNat_ofDigitChars hrest hpos, hdigit]
        rfl

end Numeral

namespace Row

/-! ## Reading the canonical form -/

/-- The canonical form of a row is read as the row. -/
theorem parse_canonical {row : Row} (h : row.Valid) : parse row.canonical = .ok row := by
  have hspells := h.spells Text.blank_nil Text.blank_nil
  rw [List.nil_append, List.append_nil] at hspells
  exact parse_eq_ok_iff_spells.mpr hspells

theorem valid_of_parse {text : Text} {row : Row} (h : parse text = .ok row) : row.Valid :=
  valid_of_spells (parse_eq_ok_iff_spells.mp h)

/-! ## Typed and canonical -/

/-- The argument has three words, and the canonical form is made of these, with the zeros
in front of the number left out. -/
theorem canonical_eq_of_parse {text : Text} {row : Row} (h : parse text = .ok row) :
    ∃ id, text.words = [id, row.username, row.email] ∧ row.canonical =
      Numeral.withoutZeros id ++ [' '] ++ row.username ++ [' '] ++ row.email := by
  obtain ⟨id, username, email, hwords, hnumeral, -, -, -, rfl⟩ := parse_eq_ok_iff_words.mp h
  refine ⟨id, hwords, ?_⟩
  have hdigits := (Numeral.isNumeral_iff.mp hnumeral).2
  rw [canonical, Numeral.ofInt_natCast, Numeral.ofNat_value hdigits]

/-- The canonical form stands for the argument.  The rows that are read are those within the
bounds of their columns; the number of each can be written, and the canonical form of the row
is read as this row again.  It is the argument as it was typed, with single spaces and without
the zeros in front of the number.  Arguments are of the same row exactly if their canonical
forms are the same. -/
theorem parse_canonical_form :
    (∀ row : Row, (∃ text, parse text = .ok row) ↔ row.Fits) ∧
    (∀ row : Row, row.Fits → Numeral.write row.id = .ok (Numeral.ofInt row.id) ∧
      parse (Numeral.ofInt row.id ++ [' '] ++ row.username ++ [' '] ++ row.email) = .ok row) ∧
    (∀ text row, parse text = .ok row → parse row.canonical = .ok row ∧
      ∃ id, text.words = [id, row.username, row.email] ∧
        row.canonical =
          Numeral.withoutZeros id ++ [' '] ++ row.username ++ [' '] ++ row.email) ∧
    ∀ text row text' row', parse text = .ok row → parse text' = .ok row' →
      (row = row' ↔ row.canonical = row'.canonical) := by
  refine ⟨?_, ?_, ?_, ?_⟩
  · intro row
    rw [← valid_iff_fits]
    constructor
    · intro h
      obtain ⟨text, htext⟩ := h
      exact valid_of_parse htext
    · intro h
      exact ⟨row.canonical, parse_canonical h⟩
  · intro row h
    have hvalid := valid_iff_fits.mpr h
    exact ⟨Numeral.write_eq_ok_iff.mpr ⟨hvalid.id_writable, rfl⟩, parse_canonical hvalid⟩
  · intro text row h
    exact ⟨parse_canonical (valid_of_parse h), canonical_eq_of_parse h⟩
  · intro text row text' row' h h'
    constructor
    · intro hrow
      rw [hrow]
    · intro hcanonical
      have hread := parse_canonical (valid_of_parse h)
      rw [hcanonical, parse_canonical (valid_of_parse h')] at hread
      exact (Except.ok.inj hread).symm

/-- Zeros in front and other blanks make another argument of the same row, and a number that
is nothing but zeros keeps one.  The first number that is too long belongs to no argument. -/
theorem parse_canonical_form_zeros :
    parse "\t007 bob\u2003b@x\r".toList = .ok ⟨7, "bob".toList, "b@x".toList⟩ ∧
    parse "7 bob b@x".toList = .ok ⟨7, "bob".toList, "b@x".toList⟩ ∧
    parse "000 0 0".toList = .ok ⟨0, "0".toList, "0".toList⟩ ∧
    (⟨0, "0".toList, "0".toList⟩ : Row).Fits ∧
    parse "0 0 0".toList = .ok ⟨0, "0".toList, "0".toList⟩ ∧
    (⟨7, "bob".toList, "b@x".toList⟩ : Row).canonical ≠
      (⟨0, "0".toList, "0".toList⟩ : Row).canonical ∧
    ¬ ∃ text, parse text = .ok ⟨10 ^ 4300, "bob".toList, "b@x".toList⟩ := by
  have hbob : parse "\t007 bob\u2003b@x\r".toList = .ok ⟨7, "bob".toList, "b@x".toList⟩ := rfl
  have hzeros : parse "000 0 0".toList = .ok ⟨0, "0".toList, "0".toList⟩ := rfl
  obtain ⟨hfits, hread, hcanonical, hsame⟩ := parse_canonical_form
  have hzero := (hfits _).mp ⟨_, hzeros⟩
  have hne := (hsame _ _ _ _ hbob hzeros).not.mp (by decide)
  have hlong : ¬ ∃ text, parse text = .ok ⟨10 ^ 4300, "bob".toList, "b@x".toList⟩ :=
    fun h => Int.lt_irrefl _ ((hfits _).mp h).id.2
  exact ⟨hbob, (hcanonical _ _ hbob).1, hzeros, hzero, (hread _ hzero).2, hne, hlong⟩

end Row

end UserDb
