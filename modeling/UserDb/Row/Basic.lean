import UserDb.Numeral
import UserDb.Text.Quoted

/-!
# Rows

A row is one user: a number, a name and an address. `Row` itself promises
nothing about its fields, since a caller may add any row to a table; the rows
that input can spell are the ones of `UserDb.Row.Spelling`.

A row is written in two ways. `line` is the listing's, with the fields as they
are, and `render` is this line unless the number is past the digit limit.
`describe` is the log's, with the texts quoted.
-/

namespace UserDb

/-- The columns of a row, in order. -/
inductive Column
  | id
  | username
  | email
deriving DecidableEq, Repr

/-- The column's name in messages. -/
def Column.name : Column → Text
  | id => Text.ofString "id"
  | username => Text.ofString "username"
  | email => Text.ofString "email"

/-- One user. -/
structure Row where
  /-- The number given to the user. -/
  id : Int
  /-- The name. -/
  username : Text
  /-- The address. -/
  email : Text
deriving DecidableEq, Repr

namespace Row

/-- The most characters of a username that is read from input. -/
def usernameSize : Nat := 32

/-- The most characters of an email that is read from input. -/
def emailSize : Nat := 255

/-! ## Writing rows -/

/-- The row as a listing shows it. -/
def line (row : Row) : Text :=
  ['('] ++ Numeral.ofInt row.id ++ [',', ' '] ++ row.username ++ [',', ' '] ++ row.email ++ [')']

/-- The row as a listing shows it, unless its number cannot be written. -/
def render (row : Row) : Except Numeral.LimitError Text :=
  (Numeral.write row.id).map fun _ => row.line

theorem render_eq_ok {row : Row} (h : Numeral.Writable row.id) :
    row.render = .ok row.line := by
  rw [render, Numeral.write_eq_ok_iff.mpr ⟨h, rfl⟩]
  rfl

theorem render_eq_error {row : Row} (h : ¬ Numeral.Writable row.id) :
    row.render = .error .writing := by
  rw [render, Numeral.write_eq_error_iff.mpr h]
  rfl

/-- The row as the log shows it. -/
def describe (row : Row) : Text :=
  Text.ofString "Row(id=" ++ Numeral.ofInt row.id
    ++ Text.ofString ", username=" ++ row.username.quoted
    ++ Text.ofString ", email=" ++ row.email.quoted ++ [')']

end Row

end UserDb
