import UserDb.Row.Basic
import UserDb.Text.Blank

/-!
# The spellings of a row

The grammar of an insert's argument, said without reading anything: a
`Spelling` is the argument taken apart into gaps and fields, `Spelling.WellFormed`
is what the gaps and fields have to be, `Spelling.text` puts them together
and `Spelling.row` is the row they mean.

A row may have many spellings. `Row.canonical` is the one with single spaces
and a number without leading zeros; a row has spellings at all exactly if it is
`Row.Valid`.
-/

namespace UserDb

namespace Row

/-- An argument text, taken apart. -/
structure Spelling where
  before : Text
  id : Text
  gap₁ : Text
  username : Text
  gap₂ : Text
  email : Text
  after : Text
deriving DecidableEq, Repr

namespace Spelling

/-- The whole text. -/
def text (s : Spelling) : Text :=
  s.before ++ s.id ++ s.gap₁ ++ s.username ++ s.gap₂ ++ s.email ++ s.after

/-- The row that is spelled. -/
def row (s : Spelling) : Row := ⟨Numeral.value s.id, s.username, s.email⟩

/-- The gaps are blank, those between the fields are not empty, and the fields
are a numeral and two words within the sizes of their columns. -/
structure WellFormed (s : Spelling) : Prop where
  before : s.before.Blank
  id : Numeral.isNumeral s.id = true
  id_length : s.id.length ≤ Numeral.maxDigits
  gap₁ : s.gap₁.Blank
  gap₁_ne_nil : s.gap₁ ≠ []
  username : s.username.IsWord
  username_length : s.username.length ≤ usernameSize
  gap₂ : s.gap₂.Blank
  gap₂_ne_nil : s.gap₂ ≠ []
  email : s.email.IsWord
  email_length : s.email.length ≤ emailSize
  after : s.after.Blank

end Spelling

/-- The text spells the row. -/
def Spells (text : Text) (row : Row) : Prop :=
  ∃ s : Spelling, s.WellFormed ∧ s.text = text ∧ s.row = row

/-- The fields with a space between them, the number in its shortest form. -/
def canonical (row : Row) : Text :=
  Numeral.ofInt row.id ++ [' '] ++ row.username ++ [' '] ++ row.email

/-- What a row read from input is: its number is natural and can be written, its
name and address are words within the sizes of their columns. -/
structure Valid (row : Row) : Prop where
  id_nonneg : 0 ≤ row.id
  id_writable : Numeral.Writable row.id
  username : row.username.IsWord
  username_length : row.username.length ≤ usernameSize
  email : row.email.IsWord
  email_length : row.email.length ≤ emailSize

end Row

end UserDb
