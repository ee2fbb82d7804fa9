import UserDb.Proofs.AuditTrail
import UserDb.Proofs.Decomposition
import UserDb.Proofs.Layout

/-!
# Lines and callers agree

An insert may be asked for by a line, or by a caller who puts the statement together and has
it executed, as a statement, as a command or outright.  Only the line is stripped before its
argument is cut out, so the argument that is executed for it is not the one that a caller
would hand over for the same text: it lacks the blanks at the end, and if there is nothing
else in it, it is empty.

This makes no difference, since an argument is read by its words.  Stripping a line that
begins with a keyword takes the blanks off the end of what follows the keyword
(`Text.strip_append_word_append`), and blanks at the end are of no word
(`Text.words_stripEnd`).  All else of the outcome is known from what the argument spells
(`Statement.insert_congr`).

## Main results

* `run_insert`, `run_select`: a line has the outcome of the statement, and logs that it is
  running besides.
* `calls_agree`: all ways of asking for an insert, and for a select, have the same outcome.
-/

namespace UserDb

namespace Text

/-! ## Blanks behind a keyword -/

/-- Stripping the end takes off a gap, and leaves a text that does not end with a blank. -/
theorem exists_stripEnd (t : Text) : ∃ gap : Text, gap.Blank ∧ t = stripEnd t ++ gap ∧
    ∀ c ∈ (stripEnd t).getLast?, isBlank c = false := by
  refine ⟨(t.reverse.takeWhile isBlank).reverse, ?_, ?_, ?_⟩
  · intro c hc
    exact List.all_eq_true.mp List.all_takeWhile c (List.mem_reverse.mp hc)
  · rw [stripEnd, ← List.reverse_append, List.takeWhile_append_dropWhile, List.reverse_reverse]
  · intro c hc
    rw [stripEnd, List.getLast?_reverse] at hc
    exact eq_false_of_mem_head?_dropWhile hc

/-- No word is lost. -/
theorem words_stripEnd (t : Text) : words (stripEnd t) = words t := by
  obtain ⟨gap, hgap, ht, -⟩ := exists_stripEnd t
  conv => rhs; rw [ht, words_append_right hgap]

/-- Of a line that begins with a word, what follows the word is stripped at its end only. -/
theorem strip_append_word_append {g word h : Text} (hg : g.Blank) (hword : word.IsWord)
    (hh : h.Blank) (t : Text) : strip (g ++ word ++ t ++ h) = word ++ stripEnd t := by
  obtain ⟨gap, hgap, ht, hlast⟩ := exists_stripEnd t
  have hstripped : IsStripped (word ++ stripEnd t) := by
    refine ⟨hword.not_startsBlank (stripEnd t), ?_⟩
    intro c hc
    rw [List.getLast?_append] at hc
    cases htail : (stripEnd t).getLast? with
    | some d =>
        rw [htail] at hc
        exact hlast c (htail.trans hc)
    | none =>
        rw [htail] at hc
        exact hword.2 c (List.mem_of_getLast? hc)
  refine strip_eq_iff.mpr ⟨hstripped, g, gap ++ h, hg, blank_append_iff.mpr ⟨hgap, hh⟩, ?_⟩
  conv => lhs; rw [ht]
  simp only [List.append_assoc]

end Text

/-! ## The argument -/

namespace Statement

/-- Inserting depends on nothing but what the argument spells, or why it spells nothing. -/
theorem insert_congr {s s' : Statement} (h : Row.parse s.args = Row.parse s'.args)
    (table : Table) : s.insert table = s'.insert table := by
  unfold insert
  rw [h]

theorem execute_insert (args : Text) (table : Table) (verb : Verb) :
    execute ⟨.insert, args⟩ table = (insert ⟨verb, args⟩ table).map Reply.executed := by
  have hinsert : insert ⟨.insert, args⟩ table = insert ⟨verb, args⟩ table := insert_congr rfl table
  show (insert ⟨.insert, args⟩ table).map Reply.executed = _
  rw [hinsert]

end Statement

/-- The argument that is cut out of a line spells what the whole of it would. -/
theorem Row.parse_stripEnd (args : Text) : parse args.stripEnd = parse args := by
  rw [parse, parse, Text.words_stripEnd]

/-! ## Lines -/

/-- The outcome, with the log of a line that asks for the command. -/
def Outcome.announced (o : Outcome Reply) (command : Command) : Outcome Reply :=
  { o with log := .running command :: o.log }

theorem parse_insert_line {w w' : Text} (hw : w.Blank) (hw' : w'.Blank) (args : Text) :
    Command.parse (w ++ Statement.insertKeyword ++ args ++ w') =
      .ok (.statement ⟨.insert, args.stripEnd⟩) :=
  Command.parse_of_insertKeyword (Text.strip_append_word_append hw isWord_insertKeyword hw' args)

theorem run_insert (table : Table) {w w' : Text} (hw : w.Blank) (hw' : w'.Blank) (args : Text) :
    run table (w ++ Statement.insertKeyword ++ args ++ w') =
      (Statement.execute ⟨.insert, args⟩ table).announced
        (.statement ⟨.insert, args.stripEnd⟩) := by
  have hinsert : Statement.insert ⟨.insert, args.stripEnd⟩ table =
      Statement.insert ⟨.insert, args⟩ table :=
    Statement.insert_congr (Row.parse_stripEnd args) table
  have hexecute : Statement.execute ⟨.insert, args.stripEnd⟩ table =
      Statement.execute ⟨.insert, args⟩ table := by
    rw [Statement.execute_insert _ _ .insert, hinsert, ← Statement.execute_insert]
  rw [run_of_parse_eq_ok (parse_insert_line hw hw' args), Command.execute, hexecute]
  rfl

/-- What follows the keyword of a select is not looked at. -/
theorem run_select (table : Table) {w : Text} (hw : w.Blank) (more args : Text) :
    run table (w ++ Statement.selectKeyword ++ more) =
      (Statement.execute ⟨.select, args⟩ table).announced (.statement ⟨.select, []⟩) := by
  have hstrip : (w ++ Statement.selectKeyword ++ more).strip =
      Statement.selectKeyword ++ more.stripEnd := by
    have hline := Text.strip_append_word_append hw isWord_selectKeyword Text.blank_nil more
    rw [List.append_nil] at hline
    exact hline
  have hselect : Statement.selectKeyword <+: (w ++ Statement.selectKeyword ++ more).strip :=
    ⟨more.stripEnd, hstrip.symm⟩
  rw [run_of_parse_eq_ok (Command.parse_of_selectKeyword hselect)]
  rfl

/-! ## Outcomes -/

/-- The outcomes are the same to whoever asked: in the answer or the fault, in the table, and in
the rows that the log tells of. -/
structure Outcome.Agrees (o o' : Outcome Reply) : Prop where
  answer : o.answer = o'.answer
  table : o.table = o'.table
  inserted : LogEntry.Kind.inserted.among (o.log.map LogEntry.message) =
    LogEntry.Kind.inserted.among (o'.log.map LogEntry.message)

theorem Outcome.agrees_announced (o : Outcome Reply) (command : Command) :
    (o.announced command).Agrees o := by
  refine { answer := rfl, table := rfl, inserted := ?_ }
  have hrecorded : recorded (o.announced command).log = recorded o.log := rfl
  rw [inserted_among_messages, inserted_among_messages, hrecorded]

/-- An insert has the same outcome whether a line asks for it or a caller, and if it is the
caller, whether a statement is executed, a command, or the statement is inserted under a verb
of any kind.  A select has the same outcome too, whatever stands behind its keyword and whatever
argument the statement has.  What comes of stripping a line and cutting the keyword off spells
what the argument spells, if it spells anything. -/
theorem calls_agree (table : Table) (args : Text) {w w' : Text} (hw : w.Blank) (hw' : w'.Blank) :
    (run table (w ++ "insert".toList ++ args ++ w')).Agrees
      (Statement.execute ⟨.insert, args⟩ table) ∧
    (Command.execute (.statement ⟨.insert, args⟩) table).Agrees
      (Statement.execute ⟨.insert, args⟩ table) ∧
    (∀ verb, Statement.execute ⟨.insert, args⟩ table =
      (Statement.insert ⟨verb, args⟩ table).map Reply.executed) ∧
    (∀ x y, (run table (w ++ "select".toList ++ x)).Agrees
      (Statement.execute ⟨.select, y⟩ table)) ∧
    ∃ args', Command.parse (w ++ "insert".toList ++ args ++ w') =
      .ok (.statement ⟨.insert, args'⟩) ∧ Row.parse args' = Row.parse args := by
  rw [← Statement.insertKeyword_eq, ← Statement.selectKeyword_eq]
  refine ⟨?_, ?_, Statement.execute_insert args table, ?_, ?_⟩
  · rw [run_insert table hw hw' args]
    exact Outcome.agrees_announced _ _
  · exact { answer := rfl, table := rfl, inserted := rfl }
  · intro x y
    rw [run_select table hw x y]
    exact Outcome.agrees_announced _ _
  · exact ⟨args.stripEnd, parse_insert_line hw hw' args, Row.parse_stripEnd args⟩

/-- The argument begins right behind the keyword and ends with blanks, which a caller hands
over and a line loses.  An argument of nothing but blanks is lost altogether. -/
theorem calls_agree_blanks : Text.Blank "\u2003".toList ∧ Text.Blank "\r".toList ∧
    (run ⟨#[⟨-5, [], "x y".toList⟩]⟩
      ("\u2003".toList ++ "insert".toList ++ "007 bob b@x \u3000".toList ++
        "\r".toList)).table.toList =
        [⟨-5, [], "x y".toList⟩, ⟨7, "bob".toList, "b@x".toList⟩] ∧
    (run .empty ("\u2003".toList ++ "insert".toList ++ " \t".toList ++ "\r".toList)).answer =
      .error (.rejected (.invalidField "id".toList)) := by
  have hw : Text.Blank "\u2003".toList := by decide
  have hw' : Text.Blank "\r".toList := by decide
  obtain ⟨hrow, -⟩ :=
    calls_agree ⟨#[⟨-5, [], "x y".toList⟩]⟩ "007 bob b@x \u3000".toList hw hw'
  obtain ⟨hnone, -⟩ := calls_agree .empty " \t".toList hw hw'
  refine ⟨hw, hw', ?_, ?_⟩
  · rw [hrow.table]
    rfl
  · rw [hnone.answer]
    decide +kernel

end UserDb
