import UserDb.Proofs.Listing
import UserDb.Proofs.Transcript

/-!
# Writing a table down and reading it in again

A table that lines have made can be written down as lines: one insert for each row,
with the fields as a listing shows them.  Run on a table without rows they make the
same table, so nothing of a table is lost in its rows' texts.

This comes down to single rows.  A row that comes from a line is valid, the text
made of its fields with spaces between them spells it again (`Row.Valid.spells`),
and none of its fields can break the line that holds it.  The limits on reading are
those on what has been read: a number that was read within the digit limit is not
longer when it is written.

## Main results

* `inserts_insertLine`: the line written for a row inserts it.
* `toList_tableAfter_insertLines`: the lines written for some rows add these rows.
* `interact_insertLines`: what is shown meanwhile.
* `session_dump`: the whole table, through the shell.
-/

namespace UserDb

namespace Row

/-! ## One row -/

/-- A valid row is spelled by its fields with spaces between them, and blanks around. -/
theorem Valid.spells {row : Row} (h : row.Valid) {before after : Text} (hbefore : before.Blank)
    (hafter : after.Blank) : Spells (before ++ row.canonical ++ after) row := by
  obtain ⟨n, hn⟩ := Int.eq_ofNat_of_zero_le h.id_nonneg
  have hid : Numeral.ofInt row.id = Numeral.ofNat n := by
    rw [hn]
    rfl
  have hlength : (Numeral.ofNat n).length ≤ Numeral.maxDigits := by
    have hwritable := h.id_writable
    rw [hn] at hwritable
    exact hwritable
  have hspace : Text.Blank [' '] := by decide
  refine ⟨⟨before, Numeral.ofNat n, [' '], row.username, [' '], row.email, after⟩, ?_, ?_, ?_⟩
  · exact
      { before := hbefore
        id := Numeral.isNumeral_ofNat n
        id_length := hlength
        gap₁ := hspace
        gap₁_ne_nil := by simp
        username := h.username
        username_length := h.username_length
        gap₂ := hspace
        gap₂_ne_nil := by simp
        email := h.email
        email_length := h.email_length
        after := hafter }
  · simp only [Spelling.text, canonical, hid, List.append_assoc]
  · show (⟨Numeral.value (Numeral.ofNat n), row.username, row.email⟩ : Row) = row
    rw [Numeral.value_ofNat, ← hn]

/-- The line that inserts the row. -/
def insertLine (row : Row) : Text := Statement.insertKeyword ++ [' '] ++ row.canonical

/-- The line of a valid row stays one line. -/
theorem newline_not_mem_insertLine {row : Row} (h : row.Valid) : '\n' ∉ row.insertLine := by
  obtain ⟨hid, husername, hemail⟩ := h.not_mem_fields (show Text.isBlank '\n' = true by decide)
  have hkeyword : '\n' ∉ Statement.insertKeyword := by
    rw [Statement.insertKeyword, Text.ofString_eq]
    decide
  simp [insertLine, canonical, hkeyword, hid, husername, hemail]

/-- There are no blanks at its ends: it starts with the keyword and ends with a word. -/
theorem strip_insertLine {row : Row} (h : row.Valid) : row.insertLine.strip = row.insertLine := by
  refine Text.strip_eq_iff.mpr ⟨⟨?_, ?_⟩, [], [], Text.blank_nil, Text.blank_nil, by simp⟩
  · intro c hc
    have hstart : Statement.insertKeyword <+: row.insertLine :=
      ⟨[' '] ++ row.canonical, by simp only [insertLine, List.append_assoc]⟩
    have hhead := Command.head?_of_isPrefix Command.head?_insertKeyword hstart
    rw [hhead] at hc
    rw [← Option.some.inj hc]
    decide
  · intro c hc
    have hlast : row.insertLine.getLast? = row.email.getLast? := by
      rw [insertLine, canonical, ← List.append_assoc, List.getLast?_append,
        List.getLast?_eq_some_getLast h.email.1, Option.some_or]
    rw [hlast] at hc
    exact h.email.2 c (List.mem_of_getLast? hc)

end Row

/-- The line written for a row inserts it. -/
theorem inserts_insertLine {row : Row} (h : row.Valid) : Inserts row.insertLine row := by
  refine ⟨[' '] ++ row.canonical, ?_, ?_⟩
  · rw [Row.strip_insertLine h, Row.insertLine, List.append_assoc]
  · have hspace : Text.Blank [' '] := by decide
    have hspells := h.spells hspace Text.blank_nil
    rw [List.append_nil] at hspells
    exact hspells

/-! ## Many rows -/

/-- The rows that the lines insert are those they are written for. -/
theorem filterMap_insertLine {rows : List Row} (h : ∀ row ∈ rows, row.Valid) :
    (rows.map Row.insertLine).filterMap insertedRow? = rows := by
  induction rows with
  | nil => rfl
  | cons row rows ih =>
      have hrow : insertedRow? row.insertLine = some row :=
        insertedRow?_eq_some_iff.mpr (inserts_insertLine (h row (by simp)))
      rw [List.map_cons, List.filterMap_cons, hrow, ih fun row' hrow' => h row' (by simp [hrow'])]

/-- The lines written for some rows add these rows, whatever the table has already. -/
theorem toList_tableAfter_insertLines {rows : List Row} (h : ∀ row ∈ rows, row.Valid)
    (table : Table) :
    (tableAfter table (rows.map Row.insertLine)).toList = table.toList ++ rows := by
  rw [toList_tableAfter, filterMap_insertLine h]

/-- The table as text: a line for each row that inserts it. -/
def Table.dump (table : Table) : Text := Text.unlines (table.toList.map Row.insertLine)

theorem lines_dump_append {table : Table} (h : ∀ row ∈ table.toList, row.Valid) (t : Text) :
    (table.dump ++ t).lines = table.toList.map Row.insertLine ++ t.lines := by
  apply Text.lines_unlines_append
  intro line hline
  obtain ⟨row, hrow, rfl⟩ := List.mem_map.mp hline
  exact Row.newline_not_mem_insertLine (h row hrow)

namespace Shell

/-! ## At the prompt -/

theorem react_of_inserts {line : Text} {row : Row} (h : Inserts line row) (table : Table) :
    react table line = .answered Reply.executedLine (run table line).table := by
  obtain ⟨args, hargs, hspells⟩ := h
  have hblank : line.strip ≠ [] :=
    Command.ne_nil_of_isPrefix Command.head?_insertKeyword ⟨args, hargs.symm⟩
  have hanswer : (run table line).answer = .ok ⟨Reply.executedLine, .proceed⟩ := by
    rw [(Runs.inserted hargs (Row.parse_eq_ok_iff_spells.mpr hspells)).eq]
  simp only [react, if_neg hblank, Reaction.ofOutcome, hanswer]

theorem react_of_selects {table : Table} {line : Text}
    (hselect : Statement.selectKeyword <+: line.strip)
    (h : ∀ row ∈ table.toList, Numeral.Writable row.id) :
    react table line = .answered (selectOutput table.toList) table := by
  have hblank : line.strip ≠ [] :=
    Command.ne_nil_of_isPrefix Command.head?_selectKeyword hselect
  have htable : (run table line).table = table := by rw [(Runs.selected hselect).eq]
  simp only [react, if_neg hblank, Reaction.ofOutcome, run_select_of_writable hselect h, htable]

/-- Each of the lines is confirmed, and the session goes on with the table that has
the rows. -/
theorem interact_insertLines {rows : List Row} (h : ∀ row ∈ rows, row.Valid) (table : Table)
    (more : List Text) :
    interact table (rows.map Row.insertLine ++ more) =
      (interact (tableAfter table (rows.map Row.insertLine)) more).after
        (List.replicate rows.length (prompt ++ Reply.executedLine)).flatten := by
  induction rows generalizing table with
  | nil => rfl
  | cons row rows ih =>
      have hreact := react_of_inserts (inserts_insertLine (h row (by simp))) table
      have hrest := ih (fun row' hrow' => h row' (by simp [hrow'])) (run table row.insertLine).table
      rw [List.map_cons, List.cons_append, interact, hreact]
      simp only [hrest, Transcript.after, tableAfter_cons, List.length_cons, List.replicate_succ,
        List.flatten_cons, List.append_assoc]

/-- A table that lines have made, written down and read in again.  Every row is
confirmed, a select then shows what it showed of the table itself, and the session
ends in order with the same table. -/
theorem session_dump (lines : List Text) :
    ∃ output, (run (tableAfter .empty lines) "select".toList).answer = .ok ⟨output, .proceed⟩ ∧
      (session ((tableAfter .empty lines).dump ++ "select\n".toList)).output =
        (List.replicate (tableAfter .empty lines).toList.length
          (prompt ++ "Executed.\n".toList)).flatten ++ (prompt ++ output ++ prompt) ∧
      (session ((tableAfter .empty lines).dump ++ "select\n".toList)).ending.exitCode = 0 ∧
      (session ((tableAfter .empty lines).dump ++ "select\n".toList)).table =
        tableAfter .empty lines ∧
      (tableAfter .empty ((tableAfter .empty lines).toList.map Row.insertLine)).toList =
        (tableAfter .empty lines).toList := by
  have hvalid : ∀ row ∈ (tableAfter .empty lines).toList, row.Valid :=
    fun _ => valid_of_mem_tableAfter
  have hanswer := run_select_tableAfter Command.selectKeyword_isPrefix_select lines
  generalize tableAfter .empty lines = table at hvalid hanswer ⊢
  have hrows : (tableAfter .empty (table.toList.map Row.insertLine)).toList = table.toList :=
    toList_tableAfter_insertLines hvalid .empty
  have htable : tableAfter .empty (table.toList.map Row.insertLine) = table :=
    Table.toList_inj.mp hrows
  have hselect : interact table ["select".toList] =
      ⟨prompt ++ selectOutput table.toList ++ prompt, .endOfInput, table⟩ := by
    rw [interact, react_of_selects Command.selectKeyword_isPrefix_select
      fun row hrow => (hvalid row hrow).id_writable]
    rfl
  have hlines : Text.lines "select\n".toList = ["select".toList] := by decide
  have hsession : session (table.dump ++ "select\n".toList) =
      (interact table ["select".toList]).after
        (List.replicate table.toList.length (prompt ++ Reply.executedLine)).flatten := by
    rw [session, lines_dump_append hvalid, hlines, interact_insertLines hvalid, htable]
  have hexecuted : Reply.executedLine = "Executed.\n".toList := by
    rw [Reply.executedLine, Text.ofString_eq]
  rw [hsession, hselect, hexecuted]
  exact ⟨_, hanswer, rfl, rfl, rfl, hrows⟩

end Shell

end UserDb
