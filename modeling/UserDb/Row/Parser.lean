import UserDb.Fault
import UserDb.Row.Basic
import UserDb.Text.Words

/-!
# Reading a row

The argument of an insert spells a row by three words: a numeral, a username and
an email. The fields are checked in this order and the first that fails is the
one reported, so a number past the digit limit is noticed before anything is
known about the other two. A word too many is a failure of the last field.
-/

namespace UserDb

/-- The rejection of a line whose `column` cannot be read. -/
def Fault.column (column : Column) : Fault := .rejected (.invalidField column.name)

namespace Row

/-- The number in the first of the words. -/
def readId : List Text → Except Fault Nat
  | [] => .error (.column .id)
  | word :: _ =>
      if Numeral.isNumeral word then (Numeral.read word).mapError .limit
      else .error (.column .id)

/-- The name in the second of the words. -/
def readUsername : List Text → Except Fault Text
  | _ :: word :: _ =>
      if word.length ≤ usernameSize then .ok word else .error (.column .username)
  | _ => .error (.column .username)

/-- The address in the third of the words, which has to be the last. -/
def readEmail : List Text → Except Fault Text
  | [_, _, word] => if word.length ≤ emailSize then .ok word else .error (.column .email)
  | _ => .error (.column .email)

/-- The row that the words spell. -/
def ofWords (words : List Text) : Except Fault Row := do
  let id ← readId words
  let username ← readUsername words
  let email ← readEmail words
  return ⟨id, username, email⟩

/-- The row that the text spells. Only its words matter, not the blanks between. -/
def parse (text : Text) : Except Fault Row := ofWords text.words

end Row

end UserDb
