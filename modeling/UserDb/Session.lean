import UserDb.Execution

/-!
# Driven sessions

The whole interface of a table, a step at a time: lines are run, rows added
without being read, statements and commands carried out that no line asked for,
and the rows listed, visited, repeated or started afresh. Listings can be kept
under a name and looked at later; what is kept is the list of rows, so nothing
that happens to the table reaches it.

A step gives a `Report`: its answer, the session after it and what was logged
during it. A fault is an answer like any other, and the steps after it go on.

* `rows_keep`: a listing just kept under a name is what the name shows, and no
  other name shows anything new.
-/

namespace UserDb

/-- A table, and the listings kept under names, the latest first. -/
structure Session where
  table : Table
  snapshots : List (Text × List Row)
deriving DecidableEq, Repr

namespace Session

/-- One step. -/
inductive Step
  | run (line : Text)
  | add (row : Row)
  | list
  | iterate
  | snapshot (name : Text)
  | view (name : Text)
  | duplicate
  | reset
  | insert (s : Statement)
  | select (s : Statement)
  | statement (s : Statement)
  | metaCommand (verb : Verb)
  | command (c : Command)
deriving DecidableEq, Repr

/-- What a step answers. -/
inductive Answer
  | done
  | rows (rows : List Row)
  | text (text : Text)
  | reply (reply : Reply)
deriving DecidableEq, Repr

/-- What a step comes to. -/
structure Report where
  answer : Except Fault Answer
  session : Session
  log : List LogEntry

/-- The session before its first step. -/
def start : Session := ⟨.empty, []⟩

/-! ## Kept listings -/

/-- The listing kept under the name; a name never taken shows no rows. -/
def rows (s : Session) (name : Text) : List Row := (s.snapshots.lookup name).getD []

/-- Keeps the rows of the table under the name. -/
def keep (s : Session) (name : Text) : Session :=
  { s with snapshots := (name, s.table.toList) :: s.snapshots }

theorem rows_keep (s : Session) (name other : Text) :
    (s.keep name).rows other = if other = name then s.table.toList else s.rows other := by
  by_cases h : other = name
  · simp [rows, keep, h]
  · simp [rows, keep, List.lookup_cons, beq_eq_false_iff_ne.mpr h, h]

/-! ## Steps -/

/-- The session with another table. -/
def withTable (s : Session) (table : Table) : Session := { s with table }

/-- A report that logs nothing. -/
def silent (s : Session) (answer : Answer) : Report := ⟨.ok answer, s, []⟩

/-- The report of an outcome for the session's table. -/
def ofOutcome {α : Type} (s : Session) (wrap : α → Answer) (o : Outcome α) : Report :=
  ⟨o.answer.map wrap, s.withTable o.table, o.log⟩

/-- Takes one step. -/
def step (s : Session) : Step → Report
  | .run line => s.ofOutcome .reply (UserDb.run s.table line)
  | .add row => (s.withTable (s.table.add row)).silent .done
  | .list => s.silent (.rows s.table.toList)
  | .iterate =>
      let (seen, table) := s.table.iterate fun table _ => table
      (s.withTable table).silent (.rows seen)
  | .snapshot name => (s.keep name).silent .done
  | .view name => s.silent (.rows (s.rows name))
  | .duplicate =>
      let (seen, table) := s.table.duplicate
      (s.withTable table).silent (.rows seen)
  | .reset => (s.withTable .empty).silent .done
  | .insert st => s.ofOutcome .text (st.insert s.table)
  | .select st => s.ofOutcome .text (st.select s.table)
  | .statement st => s.ofOutcome .reply (st.execute s.table)
  | .metaCommand verb => s.ofOutcome .reply (verb.executeMeta s.table)
  | .command c => s.ofOutcome .reply (c.execute s.table)

/-- Takes the steps one after the other. -/
def play (s : Session) : List Step → List Report
  | [] => []
  | first :: rest =>
      let report := s.step first
      report :: report.session.play rest

end Session

end UserDb
