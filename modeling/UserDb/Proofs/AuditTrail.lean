import UserDb.Proofs.Effects
import UserDb.Proofs.Grammar

/-!
# The log as an audit trail

Whoever audits a session has its log, and needs to know what the log vouches for.  Rows
reach a table in three ways: they are inserted, added outright, or added again by going
through the table.  Only the first is recorded, with the row and the number of rows
that the table has by then, so a record shows a row and its position.  The positions
of rows that came otherwise are left out, and if none did, all are there.

A step logs at most two entries.  The one for a line that is run comes first and says
what became of the line.  The one for a row that is inserted comes last, whichever of
the calls has inserted it.  This is read off `Affects`, which gives the log of a call
together with its effect on the table (`log_step`, `toList_step`).

A log is read by its messages.  They quote whatever text they show, but which kind a
message is of is said by how it begins (`LogEntry.heading_isPrefix_message_iff`).

## Main results

* `log_step`, `audited_step`: what one step logs.
* `exists_records`: the records of many steps, by the positions of their rows.
* `log_audits`: both, for the messages of a session.
-/

namespace UserDb

/-! ## Messages by kind -/

namespace LogEntry

/-- The kinds of entries. -/
inductive Kind
  | rejected
  | running
  | inserted
deriving DecidableEq, Repr

/-- The kind of an entry. -/
def kind : LogEntry → Kind
  | rejected _ _ => .rejected
  | running _ => .running
  | inserted _ _ => .inserted

/-- What the messages of a kind begin with. -/
def Kind.heading : Kind → Text
  | rejected => Text.ofString "Rejected "
  | running => Text.ofString "Running "
  | inserted => Text.ofString "Inserted "

/-- The messages of one kind. -/
def Kind.among (k : Kind) (messages : List Text) : List Text :=
  messages.filter fun message => k.heading <+: message

/-- A message shows the kind of its entry, whatever else it shows. -/
theorem heading_isPrefix_message_iff (k : Kind) (e : LogEntry) :
    k.heading <+: e.message ↔ e.kind = k := by
  cases k <;> cases e <;> simp [Kind.heading, message, kind, Text.ofString_eq]

/-- The messages of one kind are those of the entries of that kind. -/
theorem among_messages (k : Kind) (log : List LogEntry) :
    k.among (log.map message) = (log.filter fun e => e.kind = k).map message := by
  simp only [Kind.among, List.filter_map, Function.comp_def, heading_isPrefix_message_iff]

end LogEntry

open LogEntry (Kind among_messages)

/-! ## Records of rows -/

/-- The entries for rows that are inserted behind `n` others. -/
def records (n : Nat) (rows : List Row) : List LogEntry :=
  (rows.zipIdx (n + 1)).map fun (row, size) => .inserted row size

theorem records_append (n : Nat) (rows more : List Row) :
    records n (rows ++ more) = records n rows ++ records (n + rows.length) more := by
  rw [records, List.zipIdx_append, List.map_append, Nat.add_right_comm]
  rfl

theorem getElem?_records (n : Nat) (rows : List Row) (i : Nat) :
    (records n rows)[i]? = rows[i]?.map fun row => .inserted row (n + i + 1) := by
  rw [records, List.getElem?_map, List.getElem?_zipIdx, Option.map_map, Nat.add_right_comm]
  rfl

theorem kind_of_mem_records {n : Nat} {rows : List Row} {e : LogEntry} (h : e ∈ records n rows) :
    e.kind = .inserted := by
  obtain ⟨_, -, rfl⟩ := List.mem_map.mp h
  rfl

/-- The entries of a log that are records of rows. -/
def recorded (log : List LogEntry) : List LogEntry := log.filter fun e => e.kind = .inserted

theorem inserted_among_messages (log : List LogEntry) :
    Kind.inserted.among (log.map LogEntry.message) = (recorded log).map LogEntry.message :=
  among_messages ..

theorem recorded_append (log more : List LogEntry) :
    recorded (log ++ more) = recorded log ++ recorded more := List.filter_append ..

@[simp] theorem recorded_records (n : Nat) (rows : List Row) :
    recorded (records n rows) = records n rows := by
  rw [recorded, List.filter_eq_self]
  intro e he
  exact decide_eq_true (kind_of_mem_records he)

/-- The row that an argument spells, if there is an argument and it spells one. -/
def spelledRow? (args? : Option Text) : Option Row :=
  args?.bind fun args => (Row.parse args).toOption

theorem spelledRow?_eq_some_iff {args? : Option Text} {row : Row} :
    spelledRow? args? = some row ↔ ∃ args, args? = some args ∧ Row.Spells args row := by
  simp only [spelledRow?, Option.bind_eq_some_iff, Row.toOption_parse_eq_some_iff]

theorem Table.size_of_toList_eq_append {table table' : Table} {rows : List Row}
    (h : table'.toList = table.toList ++ rows) : table'.size = table.size + rows.length := by
  rw [← Table.length_toList, h, List.length_append, Table.length_toList]

/-- What an operation records is what it does to the table. -/
theorem Affects.rows_recorded {α : Type} {table : Table} {lead : List LogEntry}
    {args? : Option Text} {o : Outcome α} (h : Affects table lead args? o) :
    o.table.toList = table.toList ++ (spelledRow? args?).toList ∧
      o.log = lead ++ records table.size (spelledRow? args?).toList := by
  cases h with
  | @inserted args row _ hrow =>
      have hspelled : spelledRow? (some args) = some row := by
        simp only [spelledRow?, Option.bind_some, hrow, Except.toOption]
      have hrows : (table.add row).toList = table.toList ++ [row] := Table.toList_add table row
      have hsize : (table.add row).size = table.size + 1 := Table.size_of_toList_eq_append hrows
      rw [hspelled, hsize]
      exact ⟨hrows, rfl⟩
  | @refused args f hrow =>
      have hspelled : spelledRow? (some args) = none := by
        simp only [spelledRow?, Option.bind_some, hrow, Except.toOption]
      rw [hspelled]
      exact ⟨(List.append_nil _).symm, (List.append_nil _).symm⟩
  | kept => exact ⟨(List.append_nil _).symm, (List.append_nil _).symm⟩

namespace Session

/-! ## One step -/

/-- The step adds the row by an insert: it hands over an argument that spells it. -/
def Step.Inserts (step : Step) (row : Row) : Prop :=
  ∃ args, step.insertArgs? = some args ∧ Row.Spells args row

/-- The rows that a call adds. -/
theorem toList_step (s : Session) {call : Step} (hcall : call.isCall = true) :
    (s.step call).session.table.toList =
      s.table.toList ++ (spelledRow? call.insertArgs?).toList := by
  obtain ⟨α, o, wrap, hstep, haffects⟩ := affects_step s hcall
  rw [hstep]
  exact haffects.rows_recorded.1

/-- The log of a step: what is said of the line that is run, if one is, and the record of
the row that is inserted, if one is. -/
theorem log_step (s : Session) (step : Step) : (s.step step).log =
    step.opening?.toList ++ records s.table.size (spelledRow? step.insertArgs?).toList := by
  by_cases hcall : step.isCall = true
  · obtain ⟨α, o, wrap, hstep, haffects⟩ := affects_step s hcall
    rw [hstep]
    exact haffects.rows_recorded.2
  · cases step with
    | add | list | iterate | snapshot | view | duplicate | reset => rfl
    | _ => exact absurd rfl hcall

/-- No line is spoken of as a row is. -/
theorem kind_opening_ne (line : Text) : (opening line).kind ≠ .inserted := by
  cases h : Command.parse line with
  | ok command =>
      rw [opening_of_parse_eq_ok h, LogEntry.kind]
      decide
  | error why =>
      rw [opening_of_parse_eq_error h, LogEntry.kind]
      decide

/-- The records in the log of a step. -/
theorem recorded_log_step (s : Session) (step : Step) :
    recorded (s.step step).log = records s.table.size (spelledRow? step.insertArgs?).toList := by
  have hopening : recorded step.opening?.toList = [] := by
    cases step with
    | run line => simp [recorded, Step.opening?, kind_opening_ne]
    | _ => rfl
  rw [log_step, recorded_append, hopening, List.nil_append, recorded_records]

/-- The messages that are logged during the step. -/
def Report.messages (report : Report) : List Text := report.log.map LogEntry.message

/-- The messages of a step that tell of a row. -/
theorem inserted_among_messages_step (s : Session) (step : Step) :
    Kind.inserted.among (s.step step).messages =
      (records s.table.size (spelledRow? step.insertArgs?).toList).map LogEntry.message := by
  rw [Report.messages, inserted_among_messages, recorded_log_step]

theorem messages_step (s : Session) (step : Step) : (s.step step).messages =
    step.opening?.toList.map LogEntry.message ++ Kind.inserted.among (s.step step).messages := by
  rw [inserted_among_messages_step, Report.messages, log_step, List.map_append]

/-- What an auditor sees of a step. -/
structure Audited (s : Session) (step : Step) (report : Report) : Prop where
  /-- A row that is inserted is put behind the others, and there is one record, which shows
  it with the number of rows that the table has then. -/
  inserted : ∀ row, step.Inserts row →
    (∃ a, report.answer = .ok a) ∧ report.session.table.toList = s.table.toList ++ [row] ∧
      Kind.inserted.among report.messages =
        [(LogEntry.inserted row report.session.table.size).message]
  /-- If none is, there is no record.  Then an insert that was asked for has failed, and
  only a step that is no call may have added rows. -/
  notInserted : (∀ row, ¬ step.Inserts row) →
    Kind.inserted.among report.messages = [] ∧
      (∀ args, step.insertArgs? = some args → ∃ f, report.answer = .error f) ∧
      (step.isCall = true → report.session.table = s.table)
  /-- Of a line that cannot be read there is only the rejection. -/
  rejected : ∀ line why, step = .run line → Command.parse line = .error why →
    report.messages = [(LogEntry.rejected line why).message]
  /-- Of a line that can there is first the command, and only a record may follow. -/
  running : ∀ line command, step = .run line → Command.parse line = .ok command →
    report.messages =
      (LogEntry.running command).message :: Kind.inserted.among report.messages
  /-- If no line is run, none is spoken of. -/
  silent : (∀ line, step ≠ .run line) →
    Kind.rejected.among report.messages = [] ∧ Kind.running.among report.messages = []

theorem Step.isCall_of_insertArgs? {step : Step} {args : Text}
    (h : step.insertArgs? = some args) : step.isCall = true := by
  cases step with
  | run | insert | statement | command => rfl
  | _ => cases h

theorem record_of_inserts (s : Session) {step : Step} {row : Row} (h : step.Inserts row) :
    (∃ a, (s.step step).answer = .ok a) ∧
      (s.step step).session.table.toList = s.table.toList ++ [row] ∧
      Kind.inserted.among (s.step step).messages =
        [(LogEntry.inserted row (s.step step).session.table.size).message] := by
  obtain ⟨args, hargs, hspells⟩ := h
  have hcall := Step.isCall_of_insertArgs? hargs
  have hrow : spelledRow? step.insertArgs? = some row :=
    spelledRow?_eq_some_iff.mpr ⟨args, hargs, hspells⟩
  have hrows : (s.step step).session.table.toList = s.table.toList ++ [row] := by
    rw [toList_step s hcall, hrow]
    rfl
  have hsize : (s.step step).session.table.size = s.table.size + 1 :=
    Table.size_of_toList_eq_append hrows
  refine ⟨?_, hrows, ?_⟩
  · exact (effect_step s hcall).answer_of_insert args row hargs
      (Row.parse_eq_ok_iff_spells.mpr hspells)
  · rw [inserted_among_messages_step, hrow, hsize]
    rfl

theorem audited_step (s : Session) (step : Step) : Audited s step (s.step step) := by
  refine
    { inserted := fun row hrow => record_of_inserts s hrow
      notInserted := ?_
      rejected := ?_
      running := ?_
      silent := ?_ }
  · intro hnone
    have hrow : spelledRow? step.insertArgs? = none := by
      rw [Option.eq_none_iff_forall_ne_some]
      intro row hrow
      exact hnone row (spelledRow?_eq_some_iff.mp hrow)
    refine ⟨?_, ?_, ?_⟩
    · rw [inserted_among_messages_step, hrow]
      rfl
    · intro args hargs
      have heffect := effect_step s (Step.isCall_of_insertArgs? hargs)
      cases hparse : Row.parse args with
      | ok row => exact absurd ⟨args, hargs, Row.parse_eq_ok_iff_spells.mp hparse⟩ (hnone row)
      | error f => exact ⟨f, heffect.fault_of_insert args f hargs hparse⟩
    · intro hcall
      apply Table.toList_inj.mp
      rw [toList_step s hcall, hrow]
      exact List.append_nil _
  · intro line why hline hparse
    rw [hline, Report.messages]
    show (run s.table line).log.map LogEntry.message = _
    rw [run_of_parse_eq_error hparse]
    rfl
  · intro line command hline hparse
    have hmessages := messages_step s step
    rw [hline, Step.opening?, opening_of_parse_eq_ok hparse] at hmessages
    rw [hline]
    exact hmessages
  · intro hother
    have hopening : step.opening? = none := by
      cases step with
      | run line => exact absurd rfl (hother line)
      | _ => rfl
    have hnone : ∀ k : Kind, k ≠ .inserted → k.among (s.step step).messages = [] := by
      intro k hk
      rw [Report.messages, among_messages, log_step, hopening, List.map_eq_nil_iff,
        List.filter_eq_nil_iff]
      intro e he
      rw [kind_of_mem_records he]
      simpa using hk.symm
    exact ⟨hnone _ (by decide), hnone _ (by decide)⟩

/-! ## Many steps -/

/-- All that the steps log. -/
def log (s : Session) (steps : List Step) : List LogEntry :=
  (s.play steps).flatMap Report.log

theorem log_cons (s : Session) (step : Step) (rest : List Step) :
    s.log (step :: rest) = (s.step step).log ++ (s.step step).session.log rest := by
  simp only [log, play, List.flatMap_cons]

/-- All the messages of the steps. -/
def messages (s : Session) (steps : List Step) : List Text :=
  (s.play steps).flatMap Report.messages

theorem messages_eq (s : Session) (steps : List Step) :
    s.messages steps = (s.log steps).map LogEntry.message := by
  simp only [messages, log, List.map_flatMap]
  rfl

/-- The records of a step are among those that its rows would have, and they are these if
the step is a call. -/
theorem exists_records_step (s : Session) {step : Step} (h : step ≠ .reset) :
    ∃ rows, (s.step step).session.table.toList = s.table.toList ++ rows ∧
      (recorded (s.step step).log).Sublist (records s.table.size rows) ∧
      (step.isCall = true → recorded (s.step step).log = records s.table.size rows) := by
  by_cases hcall : step.isCall = true
  · have hlog := recorded_log_step s step
    exact ⟨_, toList_step s hcall, hlog ▸ List.Sublist.refl _, fun _ => hlog⟩
  · obtain ⟨rows, hrows⟩ := rows_isPrefix_step s h
    have hlog : (s.step step).log = [] := by
      cases step with
      | add | list | iterate | snapshot | view | duplicate => rfl
      | reset => exact absurd rfl h
      | _ => exact absurd rfl hcall
    rw [hlog]
    exact ⟨rows, hrows.symm, List.nil_sublist _, fun hcall' => absurd hcall' hcall⟩

/-- The records of many steps. -/
theorem exists_records (s : Session) {steps : List Step} (h : ∀ step ∈ steps, step ≠ .reset) :
    ∃ rows, (s.after steps).table.toList = s.table.toList ++ rows ∧
      (recorded (s.log steps)).Sublist (records s.table.size rows) ∧
      ((∀ step ∈ steps, step.isCall = true) →
        recorded (s.log steps) = records s.table.size rows) := by
  induction steps generalizing s with
  | nil => exact ⟨[], (List.append_nil _).symm, List.nil_sublist _, fun _ => rfl⟩
  | cons step rest ih =>
      obtain ⟨rows, hrows, hsub, heq⟩ := exists_records_step s (h step (by simp))
      obtain ⟨more, hmore, hsub', heq'⟩ :=
        ih (s.step step).session fun step' hstep' => h step' (by simp [hstep'])
      rw [Table.size_of_toList_eq_append hrows] at hsub' heq'
      rw [log_cons, recorded_append]
      refine ⟨rows ++ more, ?_, ?_, ?_⟩
      · rw [after_cons, hmore, hrows, List.append_assoc]
      · rw [records_append]
        exact hsub.append hsub'
      · intro hcalls
        have hrest : ∀ step' ∈ rest, step'.isCall = true := fun step' hstep' =>
          hcalls step' (by simp [hstep'])
        rw [records_append, heq (hcalls step (by simp)), heq' hrest]

/-- What a log is worth to an auditor who has nothing but its messages.  Every step logs
what it should.  In a session that does not start afresh, each record shows a row of the
final table with its position, in the order of the table and no position twice.  If the
table starts out empty and all steps are calls, no position is left out. -/
theorem log_audits (s : Session) (steps : List Step) :
    (∀ i step report, steps[i]? = some step → (s.play steps)[i]? = some report →
      Audited (s.after (steps.take i)) step report) ∧
    ((∀ step ∈ steps, step ≠ .reset) →
      (Kind.inserted.among (s.messages steps)).Sublist
        ((records 0 (s.after steps).table.toList).map LogEntry.message)) ∧
    (s.table = .empty → (∀ step ∈ steps, step.isCall = true) → ∀ i,
      (Kind.inserted.among (s.messages steps))[i]? =
        (s.after steps).table.toList[i]?.map fun row =>
          (LogEntry.inserted row (i + 1)).message) := by
  refine ⟨?_, ?_, ?_⟩
  · intro i step report hstep hreport
    rw [play_getElem?, hstep] at hreport
    rw [← Option.some.inj hreport]
    exact audited_step _ step
  · intro hsteps
    obtain ⟨rows, hrows, hsub, -⟩ := exists_records s hsteps
    rw [messages_eq, inserted_among_messages, hrows, records_append, Nat.zero_add,
      Table.length_toList]
    exact (hsub.trans (List.sublist_append_right _ _)).map _
  · intro hempty hcalls i
    have hsteps : ∀ step ∈ steps, step ≠ .reset := by
      intro step hstep hreset
      have hcall := hcalls step hstep
      rw [hreset] at hcall
      cases hcall
    obtain ⟨rows, hrows, -, heq⟩ := exists_records s hsteps
    rw [hempty] at hrows heq
    have hsize : Table.empty.size = 0 := rfl
    rw [messages_eq, inserted_among_messages, heq hcalls, hrows, Table.toList_empty,
      List.nil_append, List.getElem?_map, getElem?_records, Option.map_map, hsize, Nat.zero_add]
    rfl

/-- A row that is added outright counts although it leaves no record, and neither a line
that is refused nor one that is rejected comes between the records of two inserts. -/
theorem log_audits_silent_row :
    (∀ step ∈ [Step.run " insert 007 bob b@x".toList, .run "insert -1 al a@x".toList,
        .run "help".toList, .statement ⟨.insert, "8 al a@x".toList⟩], step.isCall = true) ∧
      (Kind.inserted.among (start.messages
        [.run " insert 007 bob b@x".toList, .run "insert -1 al a@x".toList,
          .run "help".toList, .statement ⟨.insert, "8 al a@x".toList⟩]))[1]? =
        some "Inserted Row(id=8, username='al', email='a@x'), table has 2 rows".toList ∧
    (Step.run "insert 7 bob b@x".toList).Inserts ⟨7, "bob".toList, "b@x".toList⟩ ∧
      Kind.inserted.among ((start.after [.add ⟨-5, [], "x y".toList⟩]).step
        (.run "insert 7 bob b@x".toList)).messages =
        ["Inserted Row(id=7, username='bob', email='b@x'), table has 2 rows".toList] := by
  have hcalls : ∀ step ∈ [Step.run " insert 007 bob b@x".toList, .run "insert -1 al a@x".toList,
      .run "help".toList, .statement ⟨.insert, "8 al a@x".toList⟩], step.isCall = true := by
    simp [Step.isCall]
  have hinserts : (Step.run "insert 7 bob b@x".toList).Inserts ⟨7, "bob".toList, "b@x".toList⟩ := by
    apply spelledRow?_eq_some_iff.mp
    decide +kernel
  obtain ⟨-, -, hall⟩ := log_audits start [.run " insert 007 bob b@x".toList,
    .run "insert -1 al a@x".toList, .run "help".toList, .statement ⟨.insert, "8 al a@x".toList⟩]
  obtain ⟨hsteps, -, -⟩ := log_audits start
    [.add ⟨-5, [], "x y".toList⟩, .run "insert 7 bob b@x".toList]
  have hstep := hsteps 1 _ _ rfl rfl
  obtain ⟨-, -, hmessage⟩ := hstep.inserted _ hinserts
  refine ⟨hcalls, ?_, hinserts, ?_⟩
  · rw [hall rfl hcalls 1]
    decide +kernel
  · exact hmessage.trans (by decide +kernel)

end Session

end UserDb
