import UserDb.Log
import UserDb.Row.Parser
import UserDb.Table

/-!
# Execution

Carrying out a command gives an `Outcome`: the answer or the fault, the table as
it is afterwards, and the entries that were logged on the way. A statement's
argument is only read here, and a row is only added once all of it is read, so a
fault leaves the table as it was.

`run` takes a line from its text to its outcome, and `runAll` a list of lines,
each on the table that the one before left behind; no fault and no `.exit` keeps
the lines after it from running.

* `Statement.insert_of_parse_eq_ok`, `Statement.insert_of_parse_eq_error`: an
  insert adds the row that its argument spells, or nothing;
* `run_of_parse_eq_ok`, `run_of_parse_eq_error`: a line is either run or rejected.
-/

namespace UserDb

/-! ## Replies and outcomes -/

/-- Whether the session goes on. -/
inductive Action
  | proceed
  | exit
deriving DecidableEq, Repr

/-- What a command answers. -/
structure Reply where
  output : Text
  action : Action
deriving DecidableEq, Repr

/-- The line that ends the output of every statement. -/
def Reply.executedLine : Text := Text.ofString "Executed.\n"

/-- The reply to a statement with the given output. -/
def Reply.executed (output : Text) : Reply := ⟨output ++ executedLine, .proceed⟩

/-- What carrying out a command comes to. -/
structure Outcome (α : Type) where
  /-- The answer, or what kept it from being given. -/
  answer : Except Fault α
  /-- The table afterwards. -/
  table : Table
  /-- What was logged, in order. -/
  log : List LogEntry

namespace Outcome

/-- The outcome with its answer changed. -/
def map {α β : Type} (f : α → β) (o : Outcome α) : Outcome β := ⟨o.answer.map f, o.table, o.log⟩

/-- A fault that changes nothing. -/
def fault {α : Type} (f : Fault) (table : Table) : Outcome α := ⟨.error f, table, []⟩

end Outcome

/-! ## Statements -/

namespace Statement

/-- Adds the row that the argument spells. The answer has no text. -/
def insert (s : Statement) (table : Table) : Outcome Text :=
  match Row.parse s.args with
  | .ok row => ⟨.ok [], table.add row, [.inserted row (table.add row).size]⟩
  | .error f => .fault f table

theorem insert_of_parse_eq_ok {s : Statement} {row : Row} (h : Row.parse s.args = .ok row)
    (table : Table) :
    s.insert table = ⟨.ok [], table.add row, [.inserted row (table.add row).size]⟩ := by
  simp [insert, h]

theorem insert_of_parse_eq_error {s : Statement} {f : Fault} (h : Row.parse s.args = .error f)
    (table : Table) : s.insert table = .fault f table := by
  simp [insert, h]

/-- Shows the rows of the table, whatever the statement's argument. -/
def select (_s : Statement) (table : Table) : Outcome Text :=
  ⟨table.listing.mapError .limit, table, []⟩

/-- Carries out the statement that the verb asks for. -/
def execute (s : Statement) (table : Table) : Outcome Reply :=
  match s.verb with
  | .insert => (s.insert table).map .executed
  | .select => (s.select table).map .executed
  | verb => .fault (.unknown .unknownStatement verb) table

end Statement

/-! ## Commands -/

/-- Carries out the meta command that the verb asks for. -/
def Verb.executeMeta (verb : Verb) (table : Table) : Outcome Reply :=
  match verb with
  | .exit => ⟨.ok ⟨[], .exit⟩, table, []⟩
  | verb => .fault (.unknown .unknownMeta verb) table

/-- Carries out the command. -/
def Command.execute (command : Command) (table : Table) : Outcome Reply :=
  match command with
  | .exit => Verb.exit.executeMeta table
  | .statement s => s.execute table

/-! ## Lines -/

/-- Reads the line and carries out its command, logging which it was or why
there is none. -/
def run (table : Table) (line : Text) : Outcome Reply :=
  match Command.parse line with
  | .ok command =>
      let o := command.execute table
      { o with log := .running command :: o.log }
  | .error why => ⟨.error (.rejected why), table, [.rejected line why]⟩

theorem run_of_parse_eq_ok {line : Text} {command : Command} (h : Command.parse line = .ok command)
    (table : Table) :
    run table line = ⟨(command.execute table).answer, (command.execute table).table,
      .running command :: (command.execute table).log⟩ := by
  simp [run, h]

theorem run_of_parse_eq_error {line : Text} {why : Rejection}
    (h : Command.parse line = .error why) (table : Table) :
    run table line = ⟨.error (.rejected why), table, [.rejected line why]⟩ := by
  simp [run, h]

/-- The outcomes of the lines, one after the other. -/
def runAll (table : Table) : List Text → List (Outcome Reply)
  | [] => []
  | line :: rest =>
      let o := run table line
      o :: runAll o.table rest

/-- The table that the lines leave behind. -/
def tableAfter (table : Table) (lines : List Text) : Table :=
  lines.foldl (fun table line => (run table line).table) table

@[simp] theorem tableAfter_nil (table : Table) : tableAfter table [] = table := rfl

@[simp] theorem tableAfter_cons (table : Table) (line : Text) (rest : List Text) :
    tableAfter table (line :: rest) = tableAfter (run table line).table rest := rfl

end UserDb
