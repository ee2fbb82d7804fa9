import UserDb.Proofs.Quoting
import UserDb.Proofs.Recognition

/-!
# What the log shows of a session

A log, as it is read, is one list of messages, in which nothing says where the entries
of one line end and those of the next begin.  A message holds texts that anyone may
have chosen, but it quotes them, and quoted text shows where it ends.  Only the message
of a rejected line goes on with the line unquoted, and by then the line is known.

Each line begins its entries with an `opening`: the command it asks for, or itself if
it is rejected.  The opening is all that running a line depends on, so it decides which
entries follow, and with them where the next line begins.  This makes it enough to
read openings: the message of an opening shows what the opening is
(`opening_message_inj`), and the rest of the log is the same because the lines are run
on the same tables.

## Main results

* `run_eq_of_opening_eq`: a line is run as its opening says.
* `opening_message_inj`: openings are known from their messages.
* `map_opening_eq_of_messages_eq`: so are all the openings of a log.
* `log_determines_session`: lines that have left the same log have been answered alike.
-/

namespace UserDb

/-! ## Openings -/

theorem log_run (table : Table) (line : Text) :
    ∃ more, (run table line).log = opening line :: more := by
  cases h : Command.parse line with
  | ok command => exact ⟨_, by rw [run_of_parse_eq_ok h, opening_of_parse_eq_ok h]⟩
  | error why => exact ⟨[], by rw [run_of_parse_eq_error h, opening_of_parse_eq_error h]⟩

/-- An opening shows what is asked for, or why nothing is. -/
theorem parse_eq_of_opening_eq {line line' : Text} (h : opening line = opening line') :
    Command.parse line = Command.parse line' := by
  cases hparse : Command.parse line with
  | ok command =>
      rw [opening_of_parse_eq_ok hparse] at h
      cases hparse' : Command.parse line' with
      | ok command' =>
          rw [opening_of_parse_eq_ok hparse'] at h
          rw [LogEntry.running.inj h]
      | error why' =>
          rw [opening_of_parse_eq_error hparse'] at h
          cases h
  | error why =>
      rw [opening_of_parse_eq_error hparse] at h
      cases hparse' : Command.parse line' with
      | ok command' =>
          rw [opening_of_parse_eq_ok hparse'] at h
          cases h
      | error why' =>
          rw [opening_of_parse_eq_error hparse'] at h
          rw [(LogEntry.rejected.inj h).2]

/-- That of a rejected line shows the line. -/
theorem eq_of_opening_eq {line line' : Text} {why : Rejection}
    (hparse : Command.parse line = .error why) (h : opening line = opening line') :
    line = line' := by
  have hparse' : Command.parse line' = .error why := by rw [← parse_eq_of_opening_eq h, hparse]
  rw [opening_of_parse_eq_error hparse, opening_of_parse_eq_error hparse'] at h
  exact (LogEntry.rejected.inj h).1

/-- Nothing of a line counts but its opening. -/
theorem run_eq_of_opening_eq {line line' : Text} (h : opening line = opening line')
    (table : Table) : run table line = run table line' := by
  cases hparse : Command.parse line with
  | ok command =>
      have hparse' : Command.parse line' = .ok command := by
        rw [← parse_eq_of_opening_eq h, hparse]
      rw [run_of_parse_eq_ok hparse, run_of_parse_eq_ok hparse']
  | error why => rw [eq_of_opening_eq hparse h]

/-! ## Their messages -/

/-- A statement that is an insert or a select is known from its description. -/
theorem Statement.describe_inj {s s' : Statement} (hs : s.verb = .insert ∨ s.verb = .select)
    (hs' : s'.verb = .insert ∨ s'.verb = .select) (h : s.describe = s'.describe) : s = s' := by
  have hlength : ∀ verb : Verb, verb = .insert ∨ verb = .select → verb.describe.length = 25 := by
    intro verb hverb
    rcases hverb with rfl | rfl <;> (rw [Verb.describe, Text.ofString_eq]; rfl)
  have hverbs : Verb.insert.describe ≠ Verb.select.describe := by
    rw [Verb.describe, Verb.describe, Text.ofString_eq, Text.ofString_eq]
    decide
  simp only [describe, List.append_assoc, List.append_cancel_left_eq] at h
  obtain ⟨hverb, hargs⟩ := List.append_inj h ((hlength _ hs).trans (hlength _ hs').symm)
  rw [List.append_cancel_left_eq] at hargs
  obtain ⟨verb, args⟩ := s
  obtain ⟨verb', args'⟩ := s'
  obtain ⟨rfl, -⟩ := Text.quoted_append_inj hargs
  have hsame : verb = verb' := by
    rcases hs with rfl | rfl <;> rcases hs' with rfl | rfl
    · rfl
    · exact absurd hverb hverbs
    · exact absurd hverb.symm hverbs
    · rfl
  rw [hsame]

namespace Command

/-- All but a select show the whole line, apart from the blanks around it. -/
theorem strip_eq_of_parse_eq_ok {line line' : Text} {c : Command} (h : parse line = .ok c)
    (h' : parse line' = .ok c) (hselect : ¬ Statement.selectKeyword <+: line.strip) :
    line.strip = line'.strip := by
  have hasks' := asks_of_parse h'
  cases asks_of_parse h with
  | exit hexit =>
      cases hasks' with
      | exit hexit' => rw [hexit, hexit']
  | insert hinsert =>
      cases hasks' with
      | insert hinsert' => rw [hinsert, hinsert']
  | select hselect' => exact absurd hselect' hselect

theorem exit_or_statement_of_parse {line : Text} {c : Command} (h : parse line = .ok c) :
    c = .exit ∨ ∃ s : Statement, c = .statement s ∧ (s.verb = .insert ∨ s.verb = .select) := by
  cases asks_of_parse h with
  | exit _ => exact .inl rfl
  | insert _ => exact .inr ⟨_, rfl, .inl rfl⟩
  | select _ => exact .inr ⟨_, rfl, .inr rfl⟩

theorem describe_exit_ne (s : Statement) : exit.describe ≠ (statement s).describe := by
  simp [describe, Statement.describe, Verb.describe, Text.ofString_eq]

/-- The commands that lines ask for are known from their descriptions. -/
theorem describe_inj {line line' : Text} {c c' : Command} (hc : parse line = .ok c)
    (hc' : parse line' = .ok c') (h : c.describe = c'.describe) : c = c' := by
  rcases exit_or_statement_of_parse hc with rfl | ⟨s, rfl, hs⟩
  · rcases exit_or_statement_of_parse hc' with rfl | ⟨s', rfl, -⟩
    · rfl
    · exact absurd h (describe_exit_ne s')
  · rcases exit_or_statement_of_parse hc' with rfl | ⟨s', rfl, hs'⟩
    · exact absurd h.symm (describe_exit_ne s)
    · rw [Statement.describe_inj hs hs' h]

end Command

theorem LogEntry.message_running_ne (c : Command) (line : Text) (why : Rejection) :
    (running c).message ≠ (rejected line why).message := by
  simp [message, Text.ofString_eq]

/-- Openings are known from their messages, also if a line that is rejected looks like
a message itself. -/
theorem opening_message_inj {line line' : Text}
    (h : (opening line).message = (opening line').message) : opening line = opening line' := by
  cases hparse : Command.parse line with
  | ok command =>
      cases hparse' : Command.parse line' with
      | ok command' =>
          rw [opening_of_parse_eq_ok hparse, opening_of_parse_eq_ok hparse'] at h ⊢
          rw [LogEntry.message, LogEntry.message, List.append_cancel_left_eq] at h
          rw [Command.describe_inj hparse hparse' h]
      | error why' =>
          rw [opening_of_parse_eq_ok hparse, opening_of_parse_eq_error hparse'] at h
          exact absurd h (LogEntry.message_running_ne command line' why')
  | error why =>
      cases hparse' : Command.parse line' with
      | ok command' =>
          rw [opening_of_parse_eq_error hparse, opening_of_parse_eq_ok hparse'] at h
          exact absurd h.symm (LogEntry.message_running_ne command' line why)
      | error why' =>
          rw [opening_of_parse_eq_error hparse, opening_of_parse_eq_error hparse'] at h
          simp only [LogEntry.message, List.append_assoc, List.append_cancel_left_eq] at h
          rw [(Text.quoted_append_inj h).1]

/-! ## Whole logs -/

/-- All that is logged for some outcomes, as it is worded. -/
def messages (outcomes : List (Outcome Reply)) : List Text :=
  outcomes.flatMap fun o => o.log.map LogEntry.message

theorem messages_runAll_cons (table : Table) (line : Text) (rest : List Text) :
    messages (runAll table (line :: rest)) =
      (run table line).log.map LogEntry.message ++
        messages (runAll (run table line).table rest) := by
  simp only [messages, runAll, List.flatMap_cons]

/-- The first message of a log is that of the first line's opening. -/
theorem head?_messages_runAll_cons (table : Table) (line : Text) (rest : List Text) :
    (messages (runAll table (line :: rest))).head? = some (opening line).message := by
  obtain ⟨more, hlog⟩ := log_run table line
  rw [messages_runAll_cons, hlog]
  rfl

/-- The openings of all lines are known from the messages. -/
theorem map_opening_eq_of_messages_eq {table : Table} {lines lines' : List Text}
    (h : messages (runAll table lines) = messages (runAll table lines')) :
    lines.map opening = lines'.map opening := by
  -- Along the lines, on the table that both find: once the openings of the first lines are
  -- known to be equal, so are all of their entries, which leaves the messages of the rest.
  induction lines generalizing table lines' with
  | nil =>
      cases lines' with
      | nil => rfl
      | cons line' rest' =>
          have hhead := head?_messages_runAll_cons table line' rest'
          rw [← h] at hhead
          cases hhead
  | cons line rest ih =>
      have hhead := head?_messages_runAll_cons table line rest
      cases lines' with
      | nil =>
          rw [h] at hhead
          cases hhead
      | cons line' rest' =>
          rw [h, head?_messages_runAll_cons] at hhead
          have hopening : opening line = opening line' :=
            opening_message_inj (Option.some.inj hhead).symm
          rw [messages_runAll_cons, messages_runAll_cons, run_eq_of_opening_eq hopening table,
            List.append_cancel_left_eq] at h
          rw [List.map_cons, List.map_cons, hopening, ih h]

/-- Lines with the same openings have the same outcomes. -/
theorem runAll_eq_of_map_opening_eq {table : Table} {lines lines' : List Text}
    (h : lines.map opening = lines'.map opening) :
    runAll table lines = runAll table lines' ∧
      tableAfter table lines = tableAfter table lines' := by
  induction lines generalizing table lines' with
  | nil =>
      rw [List.map_eq_nil_iff.mp h.symm]
      exact ⟨rfl, rfl⟩
  | cons line rest ih =>
      cases lines' with
      | nil => cases h
      | cons line' rest' =>
          rw [List.map_cons, List.map_cons, List.cons.injEq] at h
          have hrun := run_eq_of_opening_eq h.1 table
          obtain ⟨houtcomes, htable⟩ := ih h.2
          rw [runAll, runAll, tableAfter_cons, tableAfter_cons, hrun, houtcomes, htable]
          exact ⟨rfl, rfl⟩

/-- The log shows how a session went.  Lines that have left the same messages on the same
table are as many, each has been answered as the other, and they leave the same table
behind.  Of the lines themselves it shows those that were rejected, character for
character, and of the others all but the blanks around them and what follows the keyword
of a select. -/
theorem log_determines_session {table : Table} {lines lines' : List Text}
    (h : messages (runAll table lines) = messages (runAll table lines')) :
    lines.length = lines'.length ∧
    (runAll table lines).map Outcome.answer = (runAll table lines').map Outcome.answer ∧
    tableAfter table lines = tableAfter table lines' ∧
    ∀ (i : Nat) (line line' : Text), lines[i]? = some line → lines'[i]? = some line' →
      ((∃ why, Command.parse line = .error why) ∨ (∃ why, Command.parse line' = .error why) →
        line = line') ∧
      (¬ Statement.selectKeyword <+: line.strip → line.strip = line'.strip) := by
  have hopenings := map_opening_eq_of_messages_eq h
  obtain ⟨houtcomes, htable⟩ :
      runAll table lines = runAll table lines' ∧ tableAfter table lines = tableAfter table lines' :=
    runAll_eq_of_map_opening_eq hopenings
  have hlength : lines.length = lines'.length := by
    simpa using congrArg List.length hopenings
  refine ⟨hlength, by rw [houtcomes], htable, ?_⟩
  intro i line line' hline hline'
  have hopening : opening line = opening line' := by
    have hget := congrArg (·[i]?) hopenings
    simpa [hline, hline'] using hget
  constructor
  · intro hrejected
    rcases hrejected with ⟨why, hparse⟩ | ⟨why, hparse'⟩
    · exact eq_of_opening_eq hparse hopening
    · exact (eq_of_opening_eq hparse' hopening.symm).symm
  · intro hselect
    cases hparse : Command.parse line with
    | ok command =>
        have hparse' : Command.parse line' = .ok command := by
          rw [← parse_eq_of_opening_eq hopening, hparse]
        exact Command.strip_eq_of_parse_eq_ok hparse hparse' hselect
    | error why => rw [eq_of_opening_eq hparse hopening]

/-- Other blanks around an insert, and another text behind the keyword of a select, leave
no trace in the log.  The quote in the line that is rejected makes it quoted otherwise. -/
theorem log_determines_session_blanks :
    messages (runAll .empty ["insert 7 bob b@x".toList, "select".toList, " it's".toList]) =
      messages (runAll .empty ["\tinsert 7 bob b@x ".toList, "select *".toList, " it's".toList]) ∧
    tableAfter .empty ["insert 7 bob b@x".toList, "select".toList, " it's".toList] =
      tableAfter .empty ["\tinsert 7 bob b@x ".toList, "select *".toList, " it's".toList] := by
  have h : messages (runAll .empty
        ["insert 7 bob b@x".toList, "select".toList, " it's".toList]) =
      messages (runAll .empty
        ["\tinsert 7 bob b@x ".toList, "select *".toList, " it's".toList]) := by
    decide +kernel
  obtain ⟨-, -, htable, -⟩ := log_determines_session h
  exact ⟨h, htable⟩

end UserDb
