import UserDb.Text.Basic

/-!
# Rejections

A rejection says why a line of input is refused. It carries its cause, and its
`message` is the line shown to the user: the offending text is put in as it is,
without escapes.

Two rejections are the `same` when their kinds and messages agree. The message
of each kind determines its cause, so this is equality (`same_iff_eq`); of
different kinds, even equal messages are told apart.
-/

namespace UserDb

/-- Why a line of input is refused. -/
inductive Rejection
  | general (message : Text)
  | unrecognized (text : Text)
  | invalidField (field : Text)
deriving DecidableEq, Repr

namespace Rejection

/-- The kinds of rejections. -/
inductive Kind
  | general
  | unrecognized
  | invalidField
deriving DecidableEq, Repr

/-- The kind of a rejection. -/
def kind : Rejection → Kind
  | general _ => .general
  | unrecognized _ => .unrecognized
  | invalidField _ => .invalidField

/-- The line shown to the user. -/
def message : Rejection → Text
  | general message => message
  | unrecognized text =>
      Text.ofString "Unrecognized keyword at start of '" ++ text ++ Text.ofString "'"
  | invalidField field =>
      Text.ofString "Syntax error. Failed to parse '" ++ field ++ Text.ofString "' of input"

/-- Whether two rejections are of one kind and read the same. -/
def same (a b : Rejection) : Bool := a.kind == b.kind && a.message == b.message

/-- Rejections of one kind that read the same have the same cause. -/
theorem same_iff_eq {a b : Rejection} : a.same b = true ↔ a = b := by
  cases a <;> cases b <;>
    simp only [same, kind, message, Bool.and_eq_true, beq_iff_eq, List.append_cancel_left_eq,
      List.append_cancel_right_eq, true_and, false_and, reduceCtorEq, general.injEq,
      unrecognized.injEq, invalidField.injEq]

end Rejection

end UserDb
