import Mathlib.Data.List.Basic
import UserDb.Proofs.Recognition
import UserDb.Session

/-!
# What calls do to the table

A table is reached in six ways: a line is run, a statement is inserted, selected or
executed, a meta command or a command is executed.  The callers of the last five may
hand over what no line could ask for.  All the same only one thing ever happens to
the table, whichever way is taken: the argument that is handed to the insert is
read, and if it spells a row the row is put behind the others.  `Affects` says this
once, with the answer and the log; the six operations follow it, each by the
operation it comes down to.

Which argument this is, if any, is `insertArgs?`.  It asks for the verb of a
statement that is executed, but not of one that is inserted outright.

## Main results

* `Statement.affects_insert`, `Statement.affects_execute`, `Command.affects_execute`,
  `affects_run`, …: the operations, and `affects_step` for the calls of a session.
* `effect_step`: what a call does to the table of a session, and what it answers.
* `rows_isPrefix_step`, `pairwise_tables`: nothing but starting afresh takes rows
  away, in one step or in many.
* `call_effect`: both together.
-/

namespace UserDb

/-! ## The operations -/

/-- The ways in which a call on the table can go, when `args?` is the argument that it
hands to the insert.  Only the first leaves another table behind.  What the call has
logged before it comes to the insert is `lead`. -/
inductive Affects {α : Type} (table : Table) (lead : List LogEntry) :
    Option Text → Outcome α → Prop
  | inserted {args : Text} {row : Row} {a : α} : Row.parse args = .ok row →
      Affects table lead (some args)
        ⟨.ok a, table.add row, lead ++ [.inserted row (table.add row).size]⟩
  | refused {args : Text} {f : Fault} : Row.parse args = .error f →
      Affects table lead (some args) ⟨.error f, table, lead⟩
  | kept {answer : Except Fault α} : Affects table lead none ⟨answer, table, lead⟩

/-- What is made of the answer does not concern the table. -/
theorem Affects.map {α β : Type} {table : Table} {lead : List LogEntry} {args? : Option Text}
    {o : Outcome α} (h : Affects table lead args? o) (g : α → β) :
    Affects table lead args? (o.map g) := by
  cases h with
  | inserted hrow => exact .inserted hrow
  | refused hrow => exact .refused hrow
  | kept => exact .kept

/-- An entry logged in front is logged before everything else. -/
theorem Affects.cons_log {α : Type} {table : Table} {lead : List LogEntry} {args? : Option Text}
    {o : Outcome α} (h : Affects table lead args? o) (entry : LogEntry) :
    Affects table (entry :: lead) args? { o with log := entry :: o.log } := by
  cases h with
  | inserted hrow => exact .inserted hrow
  | refused hrow => exact .refused hrow
  | kept => exact .kept

namespace Statement

/-- The argument that the statement hands to the insert when it is executed. -/
def insertArgs? (s : Statement) : Option Text := if s.verb = .insert then some s.args else none

/-- Inserted outright, a statement hands over its argument whatever its verb. -/
theorem affects_insert (s : Statement) (table : Table) :
    Affects table [] (some s.args) (s.insert table) := by
  cases hrow : Row.parse s.args with
  | ok row =>
      rw [insert_of_parse_eq_ok hrow]
      exact .inserted hrow
  | error f =>
      rw [insert_of_parse_eq_error hrow]
      exact .refused hrow

theorem affects_select (s : Statement) (table : Table) :
    Affects table [] none (s.select table) := .kept

theorem affects_execute (s : Statement) (table : Table) :
    Affects table [] s.insertArgs? (s.execute table) := by
  by_cases hinsert : s.verb = .insert
  · have hargs : s.insertArgs? = some s.args := if_pos hinsert
    have hexecute : s.execute table = (s.insert table).map .executed := by
      simp only [execute, hinsert]
    rw [hargs, hexecute]
    exact (affects_insert s table).map _
  · have hargs : s.insertArgs? = none := if_neg hinsert
    rw [hargs]
    unfold execute
    split
    · next h => exact absurd h hinsert
    · exact (affects_select s table).map _
    · exact .kept

end Statement

theorem Verb.affects_executeMeta (verb : Verb) (table : Table) :
    Affects table [] none (verb.executeMeta table) := by
  unfold executeMeta
  split <;> exact .kept

namespace Command

/-- The argument that the command hands to the insert. -/
def insertArgs? : Command → Option Text
  | exit => none
  | statement s => s.insertArgs?

theorem affects_execute (c : Command) (table : Table) :
    Affects table [] c.insertArgs? (c.execute table) := by
  cases c with
  | exit => exact Verb.affects_executeMeta .exit table
  | statement s => exact Statement.affects_execute s table

/-- A line that starts with the keyword of an insert asks for one, with what follows
the keyword as its argument, and no other line asks for one. -/
theorem insertArgs?_of_parse {line : Text} {c : Command} (h : parse line = .ok c) :
    c.insertArgs? = Text.afterKeyword? Statement.insertKeyword line.strip := by
  cases asks_of_parse h with
  | exit hexit => exact (if_neg (not_insertKeyword_of_exitText hexit)).symm
  | insert hinsert => exact (Text.afterKeyword?_eq_some_iff.mpr hinsert).symm
  | select hselect => exact (if_neg (not_insertKeyword_of_selectKeyword hselect)).symm

end Command

/-- A line that is run logs its opening before anything else. -/
theorem affects_run (table : Table) (line : Text) :
    Affects table [opening line] (Text.afterKeyword? Statement.insertKeyword line.strip)
      (run table line) := by
  cases hparse : Command.parse line with
  | ok command =>
      have hexecute := Command.affects_execute command table
      rw [Command.insertArgs?_of_parse hparse] at hexecute
      rw [run_of_parse_eq_ok hparse, opening_of_parse_eq_ok hparse]
      exact hexecute.cons_log _
  | error why =>
      have hinsert : ¬ Statement.insertKeyword <+: line.strip := by
        intro hinsert
        obtain ⟨args, hargs⟩ := hinsert
        rw [Command.parse_of_insertKeyword hargs.symm] at hparse
        cases hparse
      have hnone : Text.afterKeyword? Statement.insertKeyword line.strip = none := if_neg hinsert
      rw [run_of_parse_eq_error hparse, opening_of_parse_eq_error hparse, hnone]
      exact .kept

namespace Session

/-! ## One step -/

/-- Whether the step is one of the six calls. -/
def Step.isCall : Step → Bool
  | .run _ | .insert _ | .select _ | .statement _ | .metaCommand _ | .command _ => true
  | _ => false

/-- The argument that the step hands to the insert. -/
def Step.insertArgs? : Step → Option Text
  | .run line => Text.afterKeyword? Statement.insertKeyword line.strip
  | .insert s => some s.args
  | .statement s => s.insertArgs?
  | .command c => c.insertArgs?
  | _ => none

/-- The entry that the step logs before it is carried out. -/
def Step.opening? : Step → Option LogEntry
  | .run line => some (opening line)
  | _ => none

/-- A call comes down to one of the operations on the table. -/
theorem affects_step (s : Session) {call : Step} (hcall : call.isCall = true) :
    ∃ (α : Type) (o : Outcome α) (wrap : α → Answer), s.step call = s.ofOutcome wrap o ∧
      Affects s.table call.opening?.toList call.insertArgs? o := by
  cases call with
  | run line => exact ⟨_, _, .reply, rfl, affects_run s.table line⟩
  | insert st => exact ⟨_, _, .text, rfl, st.affects_insert s.table⟩
  | select st => exact ⟨_, _, .text, rfl, st.affects_select s.table⟩
  | statement st => exact ⟨_, _, .reply, rfl, st.affects_execute s.table⟩
  | metaCommand verb => exact ⟨_, _, .reply, rfl, verb.affects_executeMeta s.table⟩
  | command c => exact ⟨_, _, .reply, rfl, c.affects_execute s.table⟩
  | _ => cases hcall

/-- What a call may do to the rows of a session's table, and when it is answered. -/
structure Effect (s : Session) (call : Step) (report : Report) : Prop where
  /-- The rows there were are still there, in front of all others. -/
  rows_isPrefix : s.table.toList <+: report.session.table.toList
  /-- A fault changes nothing. -/
  rows_of_fault : ∀ f, report.answer = .error f → report.session.table.toList = s.table.toList
  /-- An insert that is answered has added the row that its argument spells. -/
  rows_of_insert : ∀ args a, call.insertArgs? = some args → report.answer = .ok a →
    ∃ row, Row.parse args = .ok row ∧ report.session.table.toList = s.table.toList ++ [row]
  /-- Nothing else adds a row. -/
  rows_of_other : call.insertArgs? = none → report.session.table.toList = s.table.toList
  /-- An insert is answered if its argument can be read. -/
  answer_of_insert : ∀ args row, call.insertArgs? = some args → Row.parse args = .ok row →
    ∃ a, report.answer = .ok a
  /-- If it cannot be read, the fault is that of reading it. -/
  fault_of_insert : ∀ args f, call.insertArgs? = some args → Row.parse args = .error f →
    report.answer = .error f

/-- An operation has its effect as a step, however its answer is reported. -/
theorem effect_ofOutcome {α : Type} {s : Session} {call : Step} {lead : List LogEntry}
    {o : Outcome α} (h : Affects s.table lead call.insertArgs? o) (wrap : α → Answer) :
    Effect s call (s.ofOutcome wrap o) := by
  have hsame : ∀ args args', call.insertArgs? = some args → call.insertArgs? = some args' →
      args' = args := by
    intro args args' hargs hargs'
    rw [hargs] at hargs'
    exact (Option.some.inj hargs').symm
  generalize hargs : call.insertArgs? = args? at h
  cases h with
  | @inserted args row a hrow =>
      have hrows : (s.table.add row).toList = s.table.toList ++ [row] := Table.toList_add _ _
      refine
        { rows_isPrefix := ⟨[row], hrows.symm⟩
          rows_of_fault := fun f hanswer => by cases hanswer
          rows_of_insert := ?_
          rows_of_other := fun hnone => by simp [hargs] at hnone
          answer_of_insert := fun _ _ _ _ => ⟨wrap a, rfl⟩
          fault_of_insert := ?_ }
      · intro args' _ hargs' _
        rw [hsame _ _ hargs hargs']
        exact ⟨row, hrow, hrows⟩
      · intro args' f hargs' hfault
        rw [hsame _ _ hargs hargs', hrow] at hfault
        cases hfault
  | @refused args f hfault =>
      refine
        { rows_isPrefix := List.prefix_refl _
          rows_of_fault := fun _ _ => rfl
          rows_of_insert := fun _ _ _ hanswer => by cases hanswer
          rows_of_other := fun _ => rfl
          answer_of_insert := ?_
          fault_of_insert := ?_ }
      · intro args' row hargs' hrow
        rw [hsame _ _ hargs hargs', hfault] at hrow
        cases hrow
      · intro args' f' hargs' hfault'
        rw [hsame _ _ hargs hargs', hfault] at hfault'
        rw [← Except.error.inj hfault']
        rfl
  | kept =>
      exact
        { rows_isPrefix := List.prefix_refl _
          rows_of_fault := fun _ _ => rfl
          rows_of_insert := fun _ _ hsome _ => by simp [hargs] at hsome
          rows_of_other := fun _ => rfl
          answer_of_insert := fun _ _ hsome _ => by simp [hargs] at hsome
          fault_of_insert := fun _ _ hsome _ => by simp [hargs] at hsome }

/-- Each of the six calls has this effect. -/
theorem effect_step (s : Session) {call : Step} (hcall : call.isCall = true) :
    Effect s call (s.step call) := by
  obtain ⟨α, o, wrap, hstep, haffects⟩ := affects_step s hcall
  rw [hstep]
  exact effect_ofOutcome haffects wrap

/-! ## Many steps -/

theorem toList_foldl_add (rows : List Row) (table : Table) :
    (rows.foldl Table.add table).toList = table.toList ++ rows := by
  induction rows generalizing table with
  | nil => simp
  | cons row rows ih => simp [ih]

/-- No step takes rows away, unless it starts afresh. -/
theorem rows_isPrefix_step (s : Session) {step : Step} (h : step ≠ .reset) :
    s.table.toList <+: (s.step step).session.table.toList := by
  by_cases hcall : step.isCall = true
  · exact (effect_step s hcall).rows_isPrefix
  -- Of the other steps three put a table back, and only two of these add to it.
  · cases step with
    | add row =>
        show s.table.toList <+: (s.table.add row).toList
        rw [Table.toList_add]
        exact List.prefix_append _ _
    | iterate =>
        have htable : (s.table.iterate fun table _ => table).2 = s.table := by
          rw [Table.iterate_eq, List.foldl_fixed]
        show s.table.toList <+: (s.table.iterate fun table _ => table).2.toList
        exact htable.symm ▸ List.prefix_refl s.table.toList
    | duplicate =>
        show s.table.toList <+: (s.table.iterate Table.add).2.toList
        rw [Table.iterate_eq, toList_foldl_add]
        exact List.prefix_append _ _
    | list => exact List.prefix_refl _
    | snapshot name => exact List.prefix_refl _
    | view name => exact List.prefix_refl _
    | reset => exact absurd rfl h
    | _ => exact absurd rfl hcall

/-- The session as the steps leave it. -/
def after (s : Session) (steps : List Step) : Session :=
  steps.foldl (fun s step => (s.step step).session) s

@[simp] theorem after_nil (s : Session) : s.after [] = s := rfl

@[simp] theorem after_cons (s : Session) (step : Step) (rest : List Step) :
    s.after (step :: rest) = (s.step step).session.after rest := rfl

theorem after_append (s : Session) (steps more : List Step) :
    s.after (steps ++ more) = (s.after steps).after more := List.foldl_append

/-- The report of each step is that of taking it in the session that the steps before it
leave. -/
theorem play_getElem? (s : Session) (steps : List Step) (i : Nat) :
    (s.play steps)[i]? = steps[i]?.map (s.after (steps.take i)).step := by
  induction steps generalizing s i with
  | nil => rfl
  | cons step rest ih =>
      cases i with
      | zero => rfl
      | succ i => simp only [play, List.getElem?_cons_succ, ih, List.take_succ_cons, after_cons]

/-- The tables that a session goes through: that before the first step, and that after
each. -/
def tables (s : Session) (steps : List Step) : List Table :=
  s.table :: (s.play steps).map fun report => report.session.table

theorem tables_cons (s : Session) (step : Step) (rest : List Step) :
    s.tables (step :: rest) = s.table :: (s.step step).session.tables rest := rfl

/-- Of any two tables of a session the earlier one's rows come first in the later one. -/
theorem pairwise_tables (s : Session) {steps : List Step} (h : ∀ step ∈ steps, step ≠ .reset) :
    (s.tables steps).Pairwise fun t t' => t.toList <+: t'.toList := by
  induction steps generalizing s with
  | nil => exact List.pairwise_singleton _ _
  | cons step rest ih =>
      have hstep := rows_isPrefix_step s (h step (by simp))
      have hrest := ih (s.step step).session fun step' hstep' => h step' (by simp [hstep'])
      rw [tables_cons]
      refine List.pairwise_cons.mpr ⟨?_, hrest⟩
      intro t ht
      rcases List.mem_cons.mp ht with rfl | ht
      · exact hstep
      · exact hstep.trans ((List.pairwise_cons.mp hrest).1 t ht)

/-- Whatever a call asks for, a table is only ever added to.  A fault leaves the rows as
they were; an insert that is answered has added the row that its argument spells, and
nothing else adds one.  Over a session of such calls, and of any other steps but
starting afresh, the number of rows is that of the rows listed and never decreases. -/
theorem call_effect (s : Session) {call : Step} (hcall : call.isCall = true) {steps : List Step}
    (hsteps : ∀ step ∈ steps, step ≠ .reset) :
    Effect s call (s.step call) ∧
      (s.tables steps).Pairwise (fun t t' => t.toList <+: t'.toList ∧ t.size ≤ t'.size) ∧
      ∀ t ∈ s.tables steps, t.toList.length = t.size := by
  refine ⟨effect_step s hcall, ?_, fun t _ => Table.length_toList t⟩
  apply (pairwise_tables s hsteps).imp
  intro t t' hrows
  refine ⟨hrows, ?_⟩
  have hlength := hrows.length_le
  rw [Table.length_toList, Table.length_toList] at hlength
  exact hlength

/-- A statement may be inserted under any verb, on a table with rows of any kind. -/
theorem call_effect_foreign :
    (Step.insert ⟨.foreign .absent, "\n007 bob\tb@x".toList⟩).isCall = true ∧
      (∀ step ∈ [Step.duplicate, .run "select".toList], step ≠ .reset) ∧
      ((⟨⟨#[⟨-5, [], "x y".toList⟩]⟩, []⟩ : Session).step
          (.insert ⟨.foreign .absent, "\n007 bob\tb@x".toList⟩)).session.table.toList =
        [⟨-5, [], "x y".toList⟩, ⟨7, "bob".toList, "b@x".toList⟩] := by
  have hcall : (Step.insert ⟨.foreign .absent, "\n007 bob\tb@x".toList⟩).isCall = true := rfl
  have hsteps : ∀ step ∈ [Step.duplicate, .run "select".toList], step ≠ .reset := by simp
  have hrow : Row.parse "\n007 bob\tb@x".toList = .ok ⟨7, "bob".toList, "b@x".toList⟩ := by rfl
  obtain ⟨heffect, -⟩ := call_effect ⟨⟨#[⟨-5, [], "x y".toList⟩]⟩, []⟩ hcall hsteps
  obtain ⟨a, hanswer⟩ := heffect.answer_of_insert _ _ rfl hrow
  obtain ⟨row, hrow', hrows⟩ := heffect.rows_of_insert _ a rfl hanswer
  rw [hrow] at hrow'
  rw [← Except.ok.inj hrow'] at hrows
  exact ⟨hcall, hsteps, hrows⟩

end Session

end UserDb
