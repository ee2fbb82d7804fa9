import UserDb.Text.Basic

/-!
# Decimal numerals

A numeral is a nonempty text of the digits `0` to `9`: no sign, no separators,
no digits of other scripts. Leading zeros are allowed, so a number has many
numerals; `ofNat` writes the one without them.

Both directions of the conversion are limited to `maxDigits` digits. `read`
counts the characters of the numeral, leading zeros included; `write` counts the
digits of the number, its sign excluded.

* `value_ofNat`: a number is the value of the numeral it is written as;
* `read_eq_ok_iff`, `write_eq_ok_iff`: exactly when the limit is kept.
-/

namespace UserDb.Numeral

/-! ## Numerals and their values -/

/-- Whether `t` is a numeral. -/
def isNumeral (t : Text) : Bool := !t.isEmpty && t.all Char.isDigit

theorem isNumeral_iff {t : Text} : isNumeral t = true ↔ t ≠ [] ∧ ∀ c ∈ t, c.isDigit = true := by
  simp [isNumeral]

/-- The code points of the digits. -/
theorem toNat_of_isDigit {c : Char} (h : c.isDigit = true) : 48 ≤ c.toNat ∧ c.toNat ≤ 57 := by
  simp only [Char.isDigit, ge_iff_le, Bool.and_eq_true, decide_eq_true_eq] at h
  exact h

/-- The number that the digits of `t` write in base ten. -/
def value (t : Text) : Nat := Nat.ofDigitChars 10 t 0

/-- The numeral of `n` without leading zeros. -/
def ofNat (n : Nat) : Text := Nat.toDigits 10 n

@[simp] theorem value_ofNat (n : Nat) : value (ofNat n) = n := Nat.ofDigitChars_ten_toDigits

@[simp] theorem isNumeral_ofNat (n : Nat) : isNumeral (ofNat n) = true :=
  isNumeral_iff.mpr ⟨Nat.toDigits_ne_nil,
    fun _ hc => Nat.isDigit_of_mem_toDigits (by decide) (by decide) hc⟩

/-- Different numbers have different numerals. -/
theorem ofNat_inj {m n : Nat} : ofNat m = ofNat n ↔ m = n :=
  ⟨fun h => by simpa using congrArg value h, congrArg ofNat⟩

/-- The numeral of `n`, after a minus sign if `n` is negative. -/
def ofInt : Int → Text
  | .ofNat n => ofNat n
  | .negSucc n => '-' :: ofNat (n + 1)

@[simp] theorem ofInt_natCast (n : Nat) : ofInt n = ofNat n := rfl

/-! ## The limit -/

/-- The most digits that a numeral may have to be read or written. -/
def maxDigits : Nat := 4300

/-- What went beyond the limit: reading a numeral of so many characters, or
writing a number. -/
inductive LimitError
  | reading (digits : Nat)
  | writing
deriving DecidableEq, Repr

namespace LimitError

/-- The wording of the error. -/
def message : LimitError → Text
  | reading digits =>
      Text.ofString "Exceeds the limit (" ++ ofNat maxDigits
        ++ Text.ofString " digits) for integer string conversion: value has " ++ ofNat digits
        ++ Text.ofString " digits; use sys.set_int_max_str_digits() to increase the limit"
  | writing =>
      Text.ofString "Exceeds the limit (" ++ ofNat maxDigits
        ++ Text.ofString " digits) for integer string conversion; "
        ++ Text.ofString "use sys.set_int_max_str_digits() to increase the limit"

end LimitError

/-- The value of the numeral `t`, unless `t` has too many characters. -/
def read (t : Text) : Except LimitError Nat :=
  if t.length ≤ maxDigits then .ok (value t) else .error (.reading t.length)

theorem read_eq_ok_iff {t : Text} {n : Nat} :
    read t = .ok n ↔ t.length ≤ maxDigits ∧ value t = n := by
  grind [read]

theorem read_eq_error_iff {t : Text} {e : LimitError} :
    read t = .error e ↔ maxDigits < t.length ∧ e = .reading t.length := by
  grind [read]

/-- The number has few enough digits to be written, its sign excluded. -/
def Writable (n : Int) : Prop := (ofNat n.natAbs).length ≤ maxDigits

instance (n : Int) : Decidable (Writable n) := Nat.decLe (ofNat n.natAbs).length maxDigits

/-- The numeral of `n`, unless it has too many digits. -/
def write (n : Int) : Except LimitError Text :=
  if Writable n then .ok (ofInt n) else .error .writing

theorem write_eq_ok_iff {n : Int} {t : Text} : write n = .ok t ↔ Writable n ∧ ofInt n = t := by
  grind [write]

theorem write_eq_error_iff {n : Int} : write n = .error .writing ↔ ¬ Writable n := by
  grind [write]

end UserDb.Numeral
