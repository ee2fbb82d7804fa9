import UserDb.Numeral
import UserDb.Text.Quoted

/-!
# Verbs

A statement is led by a verb. The ones that mean something are `insert`,
`select` and `exit`; since a statement may also be put together by a caller,
a verb may be any other `Label` too, which every execution refuses by name.

`describe` is the form in which verbs appear in messages and in the log, and
`render` is this form unless the verb is a number past the digit limit.
-/

namespace UserDb

/-- A value that stands where a verb is expected without being one. -/
inductive Label
  | text (t : Text)
  | integer (n : Int)
  | truth (b : Bool)
  | absent
deriving DecidableEq, Repr

namespace Label

/-- The label in a message: texts are quoted, numbers are in decimal. -/
def describe : Label → Text
  | text t => t.quoted
  | integer n => Numeral.ofInt n
  | truth true => Text.ofString "True"
  | truth false => Text.ofString "False"
  | absent => Text.ofString "None"

/-- The label in a message, unless it is a number that cannot be written. -/
def render : Label → Except Numeral.LimitError Text
  | integer n => Numeral.write n
  | label => .ok label.describe

/-- The number a label counts as; a truth value counts as 1 or 0. -/
def number? : Label → Option Int
  | integer n => some n
  | truth b => some (if b then 1 else 0)
  | _ => none

/-- Labels agree when they are equal or count as the same number. -/
def same (a b : Label) : Bool :=
  match a.number?, b.number? with
  | some m, some n => m == n
  | _, _ => a == b

end Label

/-- What a statement or a meta command asks for. -/
inductive Verb
  | insert
  | select
  | exit
  | foreign (label : Label)
deriving DecidableEq, Repr

namespace Verb

/-- The verb in a message or in the log. -/
def describe : Verb → Text
  | insert => Text.ofString "<StatementType.INSERT: 1>"
  | select => Text.ofString "<StatementType.SELECT: 2>"
  | exit => Text.ofString "<MetaCommand.EXIT: 1>"
  | foreign label => label.describe

/-- The verb in a message, unless it is a number that cannot be written. -/
def render : Verb → Except Numeral.LimitError Text
  | foreign label => label.render
  | verb => .ok verb.describe

/-- Verbs agree when they are the same verb, or labels that agree. -/
def same : Verb → Verb → Bool
  | foreign a, foreign b => a.same b
  | a, b => a == b

end Verb

end UserDb
