import UserDb.Command
import UserDb.Row.Basic

/-!
# The log

What happens to each line is put on record: that it was rejected and why, or
that its command is running, and then which row it inserted. The text of a
rejected line is shown before any blanks are taken off. All texts are quoted, so
an entry stays on one line and shows its text exactly.
-/

namespace UserDb

/-- One entry of the log. -/
inductive LogEntry
  | rejected (line : Text) (why : Rejection)
  | running (command : Command)
  | inserted (row : Row) (size : Nat)
deriving DecidableEq, Repr

/-- The wording of the entry. -/
def LogEntry.message : LogEntry → Text
  | rejected line why =>
      Text.ofString "Rejected " ++ line.quoted ++ Text.ofString ": " ++ why.message
  | running command => Text.ofString "Running " ++ command.describe
  | inserted row size =>
      Text.ofString "Inserted " ++ row.describe ++ Text.ofString ", table has "
        ++ Numeral.ofNat size ++ Text.ofString " rows"

end UserDb
