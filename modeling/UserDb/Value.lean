import UserDb.Command
import UserDb.Row.Basic

/-!
# Comparing values

The values that the library hands out, put side by side. Rows and commands are
compared by their parts and rejections by their causes; values of different
sorts never agree, so a rejection is not its message.

`distinct` counts the values of a list up to this agreement.
-/

namespace UserDb

/-- A value to compare. -/
inductive Value
  | text (t : Text)
  | row (row : Row)
  | command (command : Command)
  | rejection (why : Rejection)
deriving DecidableEq, Repr

/-- Statements agree when their verbs do and their arguments are equal. -/
def Statement.same (a b : Statement) : Bool := a.verb.same b.verb && a.args == b.args

/-- Commands agree when both exit, or both are statements that agree. -/
def Command.same : Command → Command → Bool
  | exit, exit => true
  | statement a, statement b => a.same b
  | _, _ => false

namespace Value

/-- Whether two values agree. -/
def same : Value → Value → Bool
  | text a, text b => a == b
  | row a, row b => a == b
  | command a, command b => a.same b
  | rejection a, rejection b => a.same b
  | _, _ => false

/-- The values, each kept only if none after it agrees with it. -/
def representatives (values : List Value) : List Value :=
  values.foldr (fun v kept => if kept.any v.same then kept else v :: kept) []

/-- The number of values that do not agree. -/
def distinct (values : List Value) : Nat := (representatives values).length

theorem distinct_pair (a b : Value) : distinct [a, b] = if a.same b then 1 else 2 := by
  cases h : a.same b <;> simp [distinct, representatives, h]

end Value

end UserDb
