import UserDb.Rejection
import UserDb.Text.Strip
import UserDb.Verb

/-!
# Commands

A line of input asks for one command. Blanks around it do not count. A line that
starts with the sigil is a meta command, of which there is one, `.exit`. Every
other line is a statement, and the keyword it starts with decides which: after
`insert` the rest of the line is kept as the statement's argument, to be read
only when the statement is executed; after `select` the rest is dropped. The
keyword need not be a word of its own.

* `Statement.parse_eq_ok_insert_iff`: an insert is its keyword followed by its
  argument, so nothing of the line is lost.
-/

namespace UserDb

/-- A verb and the text it applies to. -/
structure Statement where
  verb : Verb
  args : Text := []
deriving DecidableEq, Repr

/-- What a line asks for. -/
inductive Command
  | exit
  | statement (s : Statement)
deriving DecidableEq, Repr

/-! ## Wording -/

/-- The first character of every meta command. -/
def Command.sigil : Char := '.'

/-- The meta command that ends a session. -/
def Command.exitText : Text := Text.ofString ".exit"

/-- The keyword of an insert. -/
def Statement.insertKeyword : Text := Text.ofString "insert"

/-- The keyword of a select. -/
def Statement.selectKeyword : Text := Text.ofString "select"

/-! ## Reading commands -/

namespace Statement

/-- The statement at the start of `text`. -/
def parse (text : Text) : Except Rejection Statement :=
  match Text.afterKeyword? insertKeyword text, Text.afterKeyword? selectKeyword text with
  | some args, _ => .ok ⟨.insert, args⟩
  | none, some _ => .ok ⟨.select, []⟩
  | none, none => .error (.unrecognized text)

theorem parse_eq_ok_insert_iff {text args : Text} :
    parse text = .ok ⟨.insert, args⟩ ↔ text = insertKeyword ++ args := by
  rw [← Text.afterKeyword?_eq_some_iff]
  unfold parse
  split <;> simp_all

/-- The statement in the log. -/
def describe (s : Statement) : Text :=
  Text.ofString "Statement(type=" ++ s.verb.describe ++ Text.ofString ", args="
    ++ s.args.quoted ++ [')']

end Statement

namespace Command

/-- The meta command that `text` is, letter for letter. -/
def parseMeta (text : Text) : Except Rejection Command :=
  if text = exitText then .ok .exit else .error (.unrecognized text)

/-- The command that a line asks for. -/
def parse (line : Text) : Except Rejection Command :=
  let text := line.strip
  if text.head? = some sigil then parseMeta text else (Statement.parse text).map .statement

/-- The command in the log. -/
def describe : Command → Text
  | exit => Verb.exit.describe
  | statement s => s.describe

end Command

end UserDb
