import UserDb.Proofs.Classification
import UserDb.Proofs.Grammar

/-!
# What a history of lines leaves behind

A table has no memory but its rows, and the only lines that change them are
inserts.  `Inserts line row` says what it takes, in terms of the line's text
alone: the keyword, and behind it a spelling of the row.  So the table after any
number of lines is the table before them and the rows that the inserts among
them mean, in order (`toList_tableAfter`), whatever else was asked for or
refused on the way.

Answers are accounted for in the same way.  `Answers` lists what a line is to
be answered on a table with given rows; only a select looks at the rows, and a
refusal is the same on every table.

## Main results

* `toList_run`, `toList_tableAfter`: which rows are added, by a line and by a
  history.
* `answers_run`: a single line is answered as it should be.
* `valid_of_mem_tableAfter`: rows that come from lines are valid, so every
  listing of them can be written (`run_select_tableAfter`).
* `runAll_accounts`: the rows and the answers of a whole history.
-/

namespace UserDb

/-! ## Inserts -/

/-- The line is an insert of the row: its keyword, and a spelling of the row. -/
def Inserts (line : Text) (row : Row) : Prop :=
  ∃ args, line.strip = Statement.insertKeyword ++ args ∧ Row.Spells args row

/-- The row that the line inserts, if it inserts one. -/
def insertedRow? (line : Text) : Option Row :=
  (Text.afterKeyword? Statement.insertKeyword line.strip).bind fun args => (Row.parse args).toOption

theorem insertedRow?_eq_some_iff {line : Text} {row : Row} :
    insertedRow? line = some row ↔ Inserts line row := by
  simp only [insertedRow?, Option.bind_eq_some_iff, Text.afterKeyword?_eq_some_iff,
    Row.toOption_parse_eq_some_iff, Inserts]

theorem insertedRow?_of_insertKeyword {line args : Text}
    (h : line.strip = Statement.insertKeyword ++ args) :
    insertedRow? line = (Row.parse args).toOption := by
  simp only [insertedRow?, Text.afterKeyword?_eq_some_iff.mpr h, Option.bind_some]

/-- A line that does not start with the keyword inserts nothing. -/
theorem insertedRow?_eq_none {line : Text} (h : ¬ Statement.insertKeyword <+: line.strip) :
    insertedRow? line = none := by
  simp only [insertedRow?, Text.afterKeyword?, if_neg h, Option.bind_none]

/-! ## The rows -/

/-- One line adds the row it inserts, behind the others, or nothing. -/
theorem toList_run (table : Table) (line : Text) :
    (run table line).table.toList = table.toList ++ (insertedRow? line).toList := by
  have hruns := runs_run table line
  generalize run table line = o at hruns ⊢
  cases hruns with
  | exit hexit =>
      rw [insertedRow?_eq_none (Command.not_insertKeyword_of_exitText hexit)]
      simp
  | inserted hinsert hrow =>
      rw [insertedRow?_of_insertKeyword hinsert, hrow]
      simp [Except.toOption]
  | notInserted hinsert hrow =>
      rw [insertedRow?_of_insertKeyword hinsert, hrow]
      simp [Except.toOption]
  | selected hselect =>
      rw [insertedRow?_eq_none (Command.not_insertKeyword_of_selectKeyword hselect)]
      simp
  | unrecognized hneither =>
      rw [insertedRow?_eq_none hneither.not_insert]
      simp

/-- The rows after some lines are the rows before them and those that the lines
insert, in order. -/
theorem toList_tableAfter (table : Table) (lines : List Text) :
    (tableAfter table lines).toList = table.toList ++ lines.filterMap insertedRow? := by
  induction lines generalizing table with
  | nil => simp
  | cons line rest ih =>
      rw [tableAfter_cons, ih, toList_run, List.append_assoc]
      cases hrow : insertedRow? line with
      | none => simp [hrow]
      | some row => simp [hrow]

/-- The outcome of each line is that of running it on what the lines before it
leave behind. -/
theorem runAll_getElem? (table : Table) (lines : List Text) (i : Nat) :
    (runAll table lines)[i]? = lines[i]?.map (run (tableAfter table (lines.take i))) := by
  induction lines generalizing table i with
  | nil => rfl
  | cons line rest ih =>
      cases i with
      | zero => rfl
      | succ i =>
          simp only [runAll, List.getElem?_cons_succ, ih, List.take_succ_cons, tableAfter_cons]

theorem length_runAll (table : Table) (lines : List Text) :
    (runAll table lines).length = lines.length := by
  induction lines generalizing table with
  | nil => rfl
  | cons line rest ih => simp only [runAll, List.length_cons, ih]

/-! ## The answers -/

/-- What a select shows of the rows. -/
def selectOutput (rows : List Row) : Text :=
  (rows.flatMap fun row => row.line ++ ['\n']) ++ Reply.executedLine

theorem selectOutput_cons (row : Row) (rows : List Row) :
    selectOutput (row :: rows) = row.line ++ '\n' :: selectOutput rows := by
  simp only [selectOutput, List.flatMap_cons, List.append_assoc, List.cons_append,
    List.nil_append]

/-- What a line is to be answered on a table with the given rows.  Of the four
answers only the select's depends on the rows. -/
structure Answers (refusal : Text → Fault) (rows : List Row) (line : Text)
    (answer : Except Fault Reply) : Prop where
  exit : line.strip = Command.exitText → answer = .ok ⟨[], .exit⟩
  insert : ∀ row, Inserts line row → answer = .ok ⟨Reply.executedLine, .proceed⟩
  select : Statement.selectKeyword <+: line.strip →
    answer = .ok ⟨selectOutput rows, .proceed⟩
  other : line.strip ≠ Command.exitText → (∀ row, ¬ Inserts line row) →
    ¬ Statement.selectKeyword <+: line.strip → answer = .error (refusal line)

/-- A select shows the rows, if all of them can be written. -/
theorem run_select_of_writable {table : Table} {line : Text}
    (hselect : Statement.selectKeyword <+: line.strip)
    (h : ∀ row ∈ table.toList, Numeral.Writable row.id) :
    (run table line).answer = .ok ⟨selectOutput table.toList, .proceed⟩ := by
  rw [(Runs.selected hselect).eq, Table.listing_eq_ok h]
  rfl

/-- A line that is neither `.exit` nor a select and inserts nothing is refused,
on every table for the same reason. -/
theorem exists_refusal (line : Text) : ∃ f : Fault, line.strip ≠ Command.exitText →
    (∀ row, ¬ Inserts line row) → ¬ Statement.selectKeyword <+: line.strip →
      ∀ table, (run table line).answer = .error f := by
  rcases line_cases line with hexit | ⟨args, hinsert⟩ | hselect | hneither
  · exact ⟨.unknownMeta .exit, fun hne => absurd hexit hne⟩
  · cases hrow : Row.parse args with
    | ok row =>
        have hinserts : Inserts line row := ⟨args, hinsert, Row.parse_eq_ok_iff_spells.mp hrow⟩
        exact ⟨.unknownMeta .exit, fun _ hnone => absurd hinserts (hnone row)⟩
    | error f =>
        refine ⟨f, fun _ _ _ table => ?_⟩
        rw [(Runs.notInserted hinsert hrow).eq]
  · exact ⟨.unknownMeta .exit, fun _ _ hnot => absurd hselect hnot⟩
  · refine ⟨.rejected (.unrecognized line.strip), fun _ _ _ table => ?_⟩
    rw [(Runs.unrecognized hneither).eq]

/-- A single line is answered as it should be. -/
theorem answers_run {refusal : Text → Fault}
    (hrefusal : ∀ line, line.strip ≠ Command.exitText → (∀ row, ¬ Inserts line row) →
      ¬ Statement.selectKeyword <+: line.strip →
        ∀ table, (run table line).answer = .error (refusal line))
    {table : Table} (h : ∀ row ∈ table.toList, Numeral.Writable row.id)
    (line : Text) : Answers refusal table.toList line (run table line).answer := by
  refine
    { exit := ?_
      insert := ?_
      select := fun hselect => run_select_of_writable hselect h
      other := fun hexit hinsert hselect => hrefusal line hexit hinsert hselect table }
  · intro hexit
    rw [(Runs.exit hexit).eq]
  · intro row hinserts
    obtain ⟨args, hinsert, hspells⟩ := hinserts
    rw [(Runs.inserted hinsert (Row.parse_eq_ok_iff_spells.mpr hspells)).eq]

/-! ## Rows that come from lines -/

/-- Valid rows stay so when a line is run: the row it may add has been read. -/
theorem valid_run {table : Table} (h : ∀ row ∈ table.toList, row.Valid) (line : Text) :
    ∀ row ∈ (run table line).table.toList, row.Valid := by
  intro row hrow
  rw [toList_run, List.mem_append, Option.mem_toList] at hrow
  rcases hrow with hrow | hrow
  · exact h row hrow
  · obtain ⟨args, -, hspells⟩ := insertedRow?_eq_some_iff.mp hrow
    exact Row.valid_of_spells hspells

/-- So they stay valid whatever lines are run. -/
theorem valid_tableAfter {table : Table} (h : ∀ row ∈ table.toList, row.Valid)
    (lines : List Text) : ∀ row ∈ (tableAfter table lines).toList, row.Valid := by
  induction lines generalizing table with
  | nil => exact h
  | cons line rest ih => exact ih (valid_run h line)

/-- Rows that come from lines are valid. -/
theorem valid_of_mem_tableAfter {lines : List Text} {row : Row}
    (h : row ∈ (tableAfter .empty lines).toList) : row.Valid :=
  valid_tableAfter (by simp) lines row h

/-- After any lines on an empty table, a select shows the rows. -/
theorem run_select_tableAfter {line : Text} (hselect : Statement.selectKeyword <+: line.strip)
    (lines : List Text) :
    (run (tableAfter .empty lines) line).answer =
      .ok ⟨selectOutput (tableAfter .empty lines).toList, .proceed⟩ :=
  run_select_of_writable hselect fun _ hrow => (valid_of_mem_tableAfter hrow).id_writable

/-! ## Whole histories -/

/-- What lines of any number and kind do to a table whose numbers can be written.
After each of them the rows are those at the start and those meant by the
accepted inserts so far, in order, and each is answered according to the rows
that the lines before it left.  Which row an insert means and why a line is
refused depends on the line alone. -/
theorem runAll_accounts :
    ∃ (denoted : Text → Option Row) (refusal : Text → Fault),
      (∀ line row, denoted line = some row ↔ Inserts line row) ∧
      ∀ (start : Table) (lines : List Text),
        (∀ row ∈ start.toList, Numeral.Writable row.id) →
        (runAll start lines).length = lines.length ∧
        ∀ (i : Nat) (line : Text) (o : Outcome Reply),
          lines[i]? = some line → (runAll start lines)[i]? = some o →
            o.table.toList = start.toList ++ (lines.take (i + 1)).filterMap denoted ∧
            Answers refusal (start.toList ++ (lines.take i).filterMap denoted) line o.answer := by
  obtain ⟨refusal, hrefusal⟩ := Classical.axiomOfChoice exists_refusal
  refine ⟨insertedRow?, refusal, fun _ _ => insertedRow?_eq_some_iff, ?_⟩
  intro start lines hstart
  refine ⟨length_runAll start lines, ?_⟩
  intro i line o hline ho
  have hrun : run (tableAfter start (lines.take i)) line = o := by
    rw [runAll_getElem?, hline] at ho
    exact Option.some.inj ho
  have hbefore := toList_tableAfter start (lines.take i)
  have hwritable : ∀ row ∈ (tableAfter start (lines.take i)).toList, Numeral.Writable row.id := by
    intro row hrow
    rw [hbefore, List.mem_append] at hrow
    rcases hrow with hrow | hrow
    · exact hstart row hrow
    · obtain ⟨line', -, hline'⟩ := List.mem_filterMap.mp hrow
      obtain ⟨args, -, hspells⟩ := insertedRow?_eq_some_iff.mp hline'
      exact (Row.valid_of_spells hspells).id_writable
  constructor
  · rw [← hrun, toList_run, hbefore, List.append_assoc, List.take_add_one, hline,
      List.filterMap_append]
    cases hrow : insertedRow? line with
    | none => simp [hrow]
    | some row => simp [hrow]
  · have hanswers := answers_run hrefusal hwritable line
    rw [hbefore, hrun] at hanswers
    exact hanswers

/-- A table may start with a row that no line could insert. -/
theorem runAll_accounts_select :
    (∀ row ∈ (Table.mk #[⟨-5, [], ['x', ' ', 'y']⟩]).toList, Numeral.Writable row.id) ∧
    ∃ o, (runAll ⟨#[⟨-5, [], ['x', ' ', 'y']⟩]⟩
        [" insert 007  bob b@x".toList, "select *".toList])[1]? = some o ∧
      o.answer = .ok ⟨"(-5, , x y)\n(7, bob, b@x)\nExecuted.\n".toList, .proceed⟩ := by
  have hstart : ∀ row ∈ (Table.mk #[⟨-5, [], ['x', ' ', 'y']⟩]).toList,
      Numeral.Writable row.id := by
    decide
  obtain ⟨denoted, refusal, hdenoted, haccounts⟩ := runAll_accounts
  obtain ⟨-, hsteps⟩ := haccounts _ [" insert 007  bob b@x".toList, "select *".toList] hstart
  have hselect : Statement.selectKeyword <+: Text.strip "select *".toList := by
    rw [Statement.selectKeyword, Text.ofString_eq]
    decide
  have hrow : denoted " insert 007  bob b@x".toList = some ⟨7, "bob".toList, "b@x".toList⟩ := by
    refine (hdenoted _ _).mpr ⟨" 007  bob b@x".toList, ?_, ?_⟩
    · rw [Statement.insertKeyword, Text.ofString_eq]
      decide
    · refine ⟨⟨[' '], "007".toList, [' ', ' '], "bob".toList, [' '], "b@x".toList, []⟩, ?_,
        by decide, by decide⟩
      exact ⟨by decide, by decide, by decide, by decide, by decide, by decide, by decide,
        by decide, by decide, by decide, by decide, by decide⟩
  obtain ⟨-, hanswers⟩ := hsteps 1 _ _ rfl rfl
  refine ⟨hstart, _, rfl, ?_⟩
  rw [hanswers.select hselect]
  simp only [List.take_succ_cons, List.take_zero, List.filterMap_cons, hrow, List.filterMap_nil,
    selectOutput, Reply.executedLine, Text.ofString_eq]
  rfl

end UserDb
