import UserDb.Numeral
import UserDb.Rejection
import UserDb.Verb

/-!
# Faults

Whatever keeps a command from being carried out is a fault. A rejected line is
an everyday fault: it is reported and the next line is read. The others are
beyond what a line may ask for, and end a session at the prompt: a number past
the digit limit, and a verb that the execution does not know. Such a verb is
named, so if it is a number past the limit, this is the fault instead.
-/

namespace UserDb

/-- What keeps a command from being carried out. -/
inductive Fault
  | rejected (why : Rejection)
  | limit (error : Numeral.LimitError)
  | unknownStatement (verb : Verb)
  | unknownMeta (verb : Verb)
deriving DecidableEq, Repr

namespace Fault

/-- The wording of the fault. -/
def message : Fault → Text
  | rejected why => why.message
  | limit error => error.message
  | unknownStatement verb => Text.ofString "Unknown statement type " ++ verb.describe
  | unknownMeta verb => Text.ofString "Unknown meta command " ++ verb.describe

/-- What a verb that the execution does not know comes to: the fault `named` for it, or
that of naming it. -/
def unknown (named : Verb → Fault) (verb : Verb) : Fault :=
  match verb.render with
  | .ok _ => named verb
  | .error e => .limit e

/-- The rejection, if that is what the fault is. -/
def rejection? : Fault → Option Rejection
  | rejected why => some why
  | _ => none

end Fault

end UserDb
