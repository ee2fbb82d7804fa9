import UserDb.Execution

/-!
# What a line asks for

`Command.parse` first looks at the sigil and then, on the other side of it, at
the keywords.  The three texts it knows start with three different characters,
so the order of these tests does not matter: a stripped line is `.exit`, starts
with `insert`, starts with `select`, or does none of these, and each case
excludes the others.

`run` is followed through the same four cases, with the two ways in which an
insert can go.  `Runs` lists these five, each with all that comes of it.  What is
proved about lines further on is proved by cases on `Runs`, never through the
definitions of `run` and `Command.parse`.

## Main results

* `line_cases`: the four cases are exhaustive.
* `Command.parse_of_exitText`, `Command.parse_of_insertKeyword`,
  `Command.parse_of_selectKeyword`, `Command.parse_of_neither`: what is asked
  for in each.
* `opening`: what is logged first for a line, whatever it asks for.
* `Runs.eq`, `runs_run`: running a line is what `Runs` says, and nothing else.
-/

namespace UserDb

/-! ## The four cases -/

/-- A line whose stripped text is none of the three that mean something. -/
structure Unrecognizable (line : Text) : Prop where
  ne_exitText : line.strip ≠ Command.exitText
  not_insert : ¬ Statement.insertKeyword <+: line.strip
  not_select : ¬ Statement.selectKeyword <+: line.strip

theorem line_cases (line : Text) :
    line.strip = Command.exitText ∨ (∃ args, line.strip = Statement.insertKeyword ++ args) ∨
      Statement.selectKeyword <+: line.strip ∨ Unrecognizable line := by
  by_cases hexit : line.strip = Command.exitText
  · exact .inl hexit
  by_cases hinsert : Statement.insertKeyword <+: line.strip
  · obtain ⟨args, hargs⟩ := hinsert
    exact .inr (.inl ⟨args, hargs.symm⟩)
  by_cases hselect : Statement.selectKeyword <+: line.strip
  · exact .inr (.inr (.inl hselect))
  · exact .inr (.inr (.inr ⟨hexit, hinsert, hselect⟩))

theorem Statement.insertKeyword_eq : insertKeyword = "insert".toList := Text.ofString_eq _

theorem Statement.selectKeyword_eq : selectKeyword = "select".toList := Text.ofString_eq _

theorem isWord_insertKeyword : Statement.insertKeyword.IsWord := by
  rw [Statement.insertKeyword_eq]
  decide

theorem isWord_selectKeyword : Statement.selectKeyword.IsWord := by
  rw [Statement.selectKeyword_eq]
  decide

namespace Command

theorem exitText_eq : exitText = ".exit".toList := Text.ofString_eq _

theorem head?_exitText : exitText.head? = some sigil := by
  rw [exitText_eq]
  rfl

theorem head?_insertKeyword : Statement.insertKeyword.head? = some 'i' := by
  rw [Statement.insertKeyword_eq]
  rfl

theorem head?_selectKeyword : Statement.selectKeyword.head? = some 's' := by
  rw [Statement.selectKeyword_eq]
  rfl

theorem head?_of_isPrefix {keyword text : Text} {c : Char} (hc : keyword.head? = some c)
    (h : keyword <+: text) : text.head? = some c := by
  obtain ⟨rest, rfl⟩ := h
  rw [List.head?_append, hc]
  rfl

theorem ne_nil_of_isPrefix {keyword text : Text} {c : Char} (hc : keyword.head? = some c)
    (h : keyword <+: text) : text ≠ [] := by
  intro hnil
  have hhead := head?_of_isPrefix hc h
  rw [hnil] at hhead
  cases hhead

/-- The three texts exclude each other by their first characters. -/
theorem not_insertKeyword_of_head? {text : Text} {c : Char} (hc : text.head? = some c)
    (hne : c ≠ 'i') : ¬ Statement.insertKeyword <+: text := by
  intro hstart
  have hhead := head?_of_isPrefix head?_insertKeyword hstart
  rw [hc] at hhead
  exact hne (Option.some.inj hhead)

theorem not_insertKeyword_of_exitText {text : Text} (h : text = exitText) :
    ¬ Statement.insertKeyword <+: text :=
  not_insertKeyword_of_head? (h ▸ head?_exitText) (by decide)

theorem not_insertKeyword_of_selectKeyword {text : Text} (h : Statement.selectKeyword <+: text) :
    ¬ Statement.insertKeyword <+: text :=
  not_insertKeyword_of_head? (head?_of_isPrefix head?_selectKeyword h) (by decide)

/-- The keyword alone is a select. -/
theorem selectKeyword_isPrefix_select : Statement.selectKeyword <+: Text.strip "select".toList := by
  rw [Statement.selectKeyword_eq]
  decide

end Command

/-! ## Reading commands -/

namespace Statement

theorem parse_of_selectKeyword {text : Text} (h : selectKeyword <+: text) :
    parse text = .ok ⟨.select, []⟩ := by
  have hinsert : Text.afterKeyword? insertKeyword text = none :=
    if_neg (Command.not_insertKeyword_of_selectKeyword h)
  have hselect : Text.afterKeyword? selectKeyword text =
      some (text.drop selectKeyword.length) := if_pos h
  rw [parse, hinsert, hselect]

theorem parse_of_neither {text : Text} (hinsert : ¬ insertKeyword <+: text)
    (hselect : ¬ selectKeyword <+: text) : parse text = .error (.unrecognized text) := by
  have hnone : Text.afterKeyword? insertKeyword text = none := if_neg hinsert
  have hnone' : Text.afterKeyword? selectKeyword text = none := if_neg hselect
  rw [parse, hnone, hnone']

end Statement

namespace Command

theorem parse_of_exitText {line : Text} (h : line.strip = exitText) : parse line = .ok .exit := by
  simp only [parse, h, head?_exitText, if_true, parseMeta]

/-- A line that does not start with the sigil is read as a statement. -/
private theorem parse_of_head? {line : Text} {c : Char} (hc : line.strip.head? = some c)
    (hne : c ≠ sigil) : parse line = (Statement.parse line.strip).map .statement := by
  have hsigil : ¬ line.strip.head? = some sigil := by
    rw [hc]
    exact fun e => hne (Option.some.inj e)
  simp only [parse, if_neg hsigil]

theorem parse_of_insertKeyword {line args : Text}
    (h : line.strip = Statement.insertKeyword ++ args) :
    parse line = .ok (.statement ⟨.insert, args⟩) := by
  have hstart : Statement.insertKeyword <+: line.strip := ⟨args, h.symm⟩
  rw [parse_of_head? (head?_of_isPrefix head?_insertKeyword hstart) (by decide),
    Statement.parse_eq_ok_insert_iff.mpr h]
  rfl

theorem parse_of_selectKeyword {line : Text} (h : Statement.selectKeyword <+: line.strip) :
    parse line = .ok (.statement ⟨.select, []⟩) := by
  have hhead := head?_of_isPrefix head?_selectKeyword h
  rw [parse_of_head? hhead (by decide), Statement.parse_of_selectKeyword h]
  rfl

theorem parse_of_neither {line : Text} (h : Unrecognizable line) :
    parse line = .error (.unrecognized line.strip) := by
  simp only [parse]
  split
  · exact if_neg h.ne_exitText
  · rw [Statement.parse_of_neither h.not_insert h.not_select]
    rfl

end Command

/-! ## Running lines -/

/-- The entry that is logged first for a line. -/
def opening (line : Text) : LogEntry :=
  match Command.parse line with
  | .ok command => .running command
  | .error why => .rejected line why

theorem opening_of_parse_eq_ok {line : Text} {command : Command}
    (h : Command.parse line = .ok command) : opening line = .running command := by
  simp only [opening, h]

theorem opening_of_parse_eq_error {line : Text} {why : Rejection}
    (h : Command.parse line = .error why) : opening line = .rejected line why := by
  simp only [opening, h]

/-- The ways in which running a line on a table can go, and what comes of each. -/
inductive Runs (table : Table) (line : Text) : Outcome Reply → Prop
  | exit : line.strip = Command.exitText →
      Runs table line ⟨.ok ⟨[], .exit⟩, table, [.running .exit]⟩
  | inserted {args : Text} {row : Row} : line.strip = Statement.insertKeyword ++ args →
      Row.parse args = .ok row →
      Runs table line ⟨.ok ⟨Reply.executedLine, .proceed⟩, table.add row,
        [.running (.statement ⟨.insert, args⟩), .inserted row (table.add row).size]⟩
  | notInserted {args : Text} {f : Fault} : line.strip = Statement.insertKeyword ++ args →
      Row.parse args = .error f →
      Runs table line ⟨.error f, table, [.running (.statement ⟨.insert, args⟩)]⟩
  | selected : Statement.selectKeyword <+: line.strip →
      Runs table line ⟨(table.listing.mapError .limit).map .executed, table,
        [.running (.statement ⟨.select, []⟩)]⟩
  | unrecognized : Unrecognizable line →
      Runs table line ⟨.error (.rejected (.unrecognized line.strip)), table,
        [.rejected line (.unrecognized line.strip)]⟩

theorem Runs.eq {table : Table} {line : Text} {o : Outcome Reply} (h : Runs table line o) :
    run table line = o := by
  cases h with
  | exit hexit => exact run_of_parse_eq_ok (Command.parse_of_exitText hexit) table
  | inserted hinsert hrow =>
      rw [run_of_parse_eq_ok (Command.parse_of_insertKeyword hinsert)]
      simp only [Command.execute, Statement.execute, Statement.insert, hrow, Outcome.map,
        Except.map, Reply.executed, List.nil_append]
  | notInserted hinsert hrow =>
      rw [run_of_parse_eq_ok (Command.parse_of_insertKeyword hinsert)]
      simp only [Command.execute, Statement.execute, Statement.insert, hrow, Outcome.map,
        Except.map, Outcome.fault]
  | selected hselect => exact run_of_parse_eq_ok (Command.parse_of_selectKeyword hselect) table
  | unrecognized hneither => exact run_of_parse_eq_error (Command.parse_of_neither hneither) table

/-- Every line goes one of these ways. -/
theorem runs_run (table : Table) (line : Text) : Runs table line (run table line) := by
  have hruns : ∃ o, Runs table line o := by
    rcases line_cases line with hexit | ⟨args, hinsert⟩ | hselect | hneither
    · exact ⟨_, .exit hexit⟩
    · cases hrow : Row.parse args with
      | ok row => exact ⟨_, .inserted hinsert hrow⟩
      | error f => exact ⟨_, .notInserted hinsert hrow⟩
    · exact ⟨_, .selected hselect⟩
    · exact ⟨_, .unrecognized hneither⟩
  obtain ⟨o, ho⟩ := hruns
  rw [ho.eq]
  exact ho

end UserDb
