import UserDb.Proofs.Continuation

/-!
# Lines that leave no trace

A line that is blank, rejected or a select adds no row and ends no session, so the
lines after it find what they would have found without it.  All that such an `Idle`
line leaves in a transcript is its own answer, with the prompt before it, and this
only if it is read at all.

So idle lines may be left out of an input, or put into it, anywhere and in any
number.  To say which, the lines are marked: `unmarked` are those that stay, and the
answers that stay are the unmarked ones too.

## Main results

* `Idle.not_endsSession`, `Idle.tableAfterLine_eq`: an idle line changes nothing.
* `interact_cons_of_idle`: what it leaves in a transcript.
* `omits_interact`: leaving out any number of them, on any table of valid rows.
* `session_omit`: both, for inputs.
-/

namespace UserDb.Shell

/-! ## Idle lines -/

/-- The line is blank, a select, or rejected. -/
inductive Idle (line : Text) : Prop
  | blank : line.Blank → Idle line
  | select : Statement.selectKeyword <+: line.strip → Idle line
  | rejected {table : Table} {why : Rejection} :
      (run table line).answer = .error (.rejected why) → Idle line

/-- Nothing starts a blank line. -/
private theorem not_isPrefix_strip_of_blank {line : Text} (h : line.Blank) {keyword : Text}
    {c : Char} (hc : keyword.head? = some c) : ¬ keyword <+: line.strip := by
  intro hstart
  exact Command.ne_nil_of_isPrefix hc hstart (Text.strip_eq_nil_iff.mpr h)

theorem Idle.not_endsSession {line : Text} (h : Idle line) : ¬ EndsSession line := by
  intro hends
  rcases hends with hexit | ⟨digits, hlong⟩
  · have hstart : Command.exitText <+: line.strip := hexit ▸ List.prefix_refl _
    cases h with
    | blank hblank => exact not_isPrefix_strip_of_blank hblank Command.head?_exitText hstart
    | select hselect =>
        have hhead := Command.head?_of_isPrefix Command.head?_selectKeyword hselect
        rw [hexit, Command.head?_exitText] at hhead
        exact absurd (Option.some.inj hhead) (by decide)
    | rejected hanswer =>
        rw [(Runs.exit hexit).eq] at hanswer
        cases hanswer
  · have hstart := hlong.insertKeyword_isPrefix
    cases h with
    | blank hblank => exact not_isPrefix_strip_of_blank hblank Command.head?_insertKeyword hstart
    | select hselect => exact Command.not_insertKeyword_of_selectKeyword hselect hstart
    | rejected hanswer =>
        rw [run_of_overlong hlong] at hanswer
        cases hanswer

theorem Idle.insertedRow?_eq_none {line : Text} (h : Idle line) : insertedRow? line = none := by
  cases h with
  | blank hblank =>
      exact UserDb.insertedRow?_eq_none
        (not_isPrefix_strip_of_blank hblank Command.head?_insertKeyword)
  | select hselect =>
      exact UserDb.insertedRow?_eq_none (Command.not_insertKeyword_of_selectKeyword hselect)
  | rejected hanswer =>
      cases hrow : insertedRow? line with
      | none => rfl
      | some row =>
          obtain ⟨args, hargs, hspells⟩ := insertedRow?_eq_some_iff.mp hrow
          rw [(Runs.inserted hargs (Row.parse_eq_ok_iff_spells.mpr hspells)).eq] at hanswer
          cases hanswer

/-- The lines after an idle line find the table that the line has found. -/
theorem Idle.tableAfterLine_eq {line : Text} (h : Idle line) (table : Table) :
    tableAfterLine table line = table := by
  unfold tableAfterLine
  split
  · rfl
  · apply Table.toList_inj.mp
    rw [toList_run, h.insertedRow?_eq_none]
    exact List.append_nil _

/-- Valid rows stay so in a session. -/
theorem valid_tableAfterLine {table : Table} (h : ∀ row ∈ table.toList, row.Valid) (line : Text) :
    ∀ row ∈ (tableAfterLine table line).toList, row.Valid := by
  unfold tableAfterLine
  split
  · exact h
  · exact valid_run h line

theorem Idle.not_stops {table : Table} {line : Text} (h : Idle line)
    (hvalid : ∀ row ∈ table.toList, row.Valid) (ending : Ending) : ¬ Stops table line ending :=
  fun hstops => h.not_endsSession
    (endsSession_of_stops (fun row hrow => (hvalid row hrow).id_writable) hstops)

/-- An idle line is answered, and the session goes on as if it had not been read. -/
theorem interact_cons_of_idle {table : Table} {line : Text} (h : Idle line)
    (hvalid : ∀ row ∈ table.toList, row.Valid) (rest : List Text) :
    interact table (line :: rest) =
      (interact table rest).after (prompt ++ response table line) := by
  rw [interact_cons_of_not_stops (h.not_stops hvalid), h.tableAfterLine_eq]
  rfl

/-! ## Leaving lines out -/

/-- What is left of a list when its marked members are taken out. -/
def unmarked {α : Type} (marked : List (α × Bool)) : List α :=
  (marked.filter fun a => !a.2).map Prod.fst

@[simp] theorem unmarked_nil {α : Type} : unmarked ([] : List (α × Bool)) = [] := rfl

@[simp] theorem unmarked_cons_true {α : Type} (a : α) (rest : List (α × Bool)) :
    unmarked ((a, true) :: rest) = unmarked rest := rfl

@[simp] theorem unmarked_cons_false {α : Type} (a : α) (rest : List (α × Bool)) :
    unmarked ((a, false) :: rest) = a :: unmarked rest := rfl

/-- The transcript `t'` of a session without the marked lines is the transcript `t` of
the whole session, apart from the answers to these lines: what is shown in answer to
the others is the same, and so are the ending and the table. -/
structure Omits (start : Table) (marked : List (Text × Bool)) (t t' : Transcript) : Prop where
  answers : ∃ k k', Plays start (marked.map Prod.fst) k t ∧ Plays start (unmarked marked) k' t' ∧
    (responses start (unmarked marked)).take k' =
      unmarked (((responses start (marked.map Prod.fst)).take k).zip (marked.map Prod.snd))
  ending : t'.ending = t.ending
  table : t'.table = t.table

theorem omits_nil (start : Table) : Omits start [] (interact start []) (interact start []) :=
  { answers := ⟨0, 0, plays_nil start, plays_nil start, rfl⟩
    ending := rfl
    table := rfl }

/-- A session that is ended by a line which stays has come to no other. -/
theorem omits_of_stops {start : Table} {line : Text} {ending : Ending}
    (h : Stops start line ending) (marked : List (Text × Bool)) :
    Omits start ((line, false) :: marked) (interact start (line :: marked.map Prod.fst))
      (interact start (line :: unmarked marked)) :=
  { answers := ⟨0, 0, plays_of_stops h _, plays_of_stops h _, rfl⟩
    ending := by rw [interact_cons_of_stops h, interact_cons_of_stops h]
    table := by rw [interact_cons_of_stops h, interact_cons_of_stops h] }

/-- The answer to a line that stays is put in front of both transcripts. -/
theorem Omits.keep {start : Table} {line : Text} {marked : List (Text × Bool)}
    (hnot : ∀ ending, ¬ Stops start line ending)
    (h : Omits (tableAfterLine start line) marked
      (interact (tableAfterLine start line) (marked.map Prod.fst))
      (interact (tableAfterLine start line) (unmarked marked))) :
    Omits start ((line, false) :: marked) (interact start (line :: marked.map Prod.fst))
      (interact start (line :: unmarked marked)) := by
  obtain ⟨k, k', hk, hk', hanswers⟩ := h.answers
  refine
    { answers := ⟨k + 1, k' + 1, hk.cons hnot, hk'.cons hnot, ?_⟩
      ending := ?_
      table := ?_ }
  · simp only [List.map_cons, unmarked_cons_false, responses_cons, List.take_succ_cons,
      List.zip_cons_cons, hanswers]
  · rw [interact_cons_of_not_stops hnot, interact_cons_of_not_stops hnot]
    exact h.ending
  · rw [interact_cons_of_not_stops hnot, interact_cons_of_not_stops hnot]
    exact h.table

/-- The answer to a line that is left out is put in front of the first only. -/
theorem Omits.drop {start : Table} {line : Text} {marked : List (Text × Bool)}
    (hidle : Idle line) (hvalid : ∀ row ∈ start.toList, row.Valid)
    (h : Omits start marked (interact start (marked.map Prod.fst))
      (interact start (unmarked marked))) :
    Omits start ((line, true) :: marked) (interact start (line :: marked.map Prod.fst))
      (interact start (unmarked marked)) := by
  obtain ⟨k, k', hk, hk', hanswers⟩ := h.answers
  have htable := hidle.tableAfterLine_eq start
  have hplays : Plays start (line :: marked.map Prod.fst) (k + 1)
      (interact start (line :: marked.map Prod.fst)) := by
    apply Plays.cons (hidle.not_stops hvalid)
    rw [htable]
    exact hk
  have hinteract := interact_cons_of_idle hidle hvalid (marked.map Prod.fst)
  refine
    { answers := ⟨k + 1, k', hplays, hk', ?_⟩
      ending := ?_
      table := ?_ }
  · simp only [List.map_cons, unmarked_cons_true, responses_cons, htable, List.take_succ_cons,
      List.zip_cons_cons, hanswers]
  · rw [hinteract]
    exact h.ending
  · rw [hinteract]
    exact h.table

/-- Any number of idle lines may be left out. -/
theorem omits_interact {start : Table} (hvalid : ∀ row ∈ start.toList, row.Valid)
    {marked : List (Text × Bool)} (hidle : ∀ line, (line, true) ∈ marked → Idle line) :
    Omits start marked (interact start (marked.map Prod.fst))
      (interact start (unmarked marked)) := by
  induction marked generalizing start with
  | nil => exact omits_nil start
  | cons first rest ih =>
      obtain ⟨line, mark⟩ := first
      have hrest : ∀ line', (line', true) ∈ rest → Idle line' :=
        fun line' hmem => hidle line' (List.mem_cons_of_mem _ hmem)
      cases mark with
      | true => exact (ih hvalid hrest).drop (hidle line (by simp)) hvalid
      | false =>
          by_cases hstops : ∃ ending, Stops start line ending
          · obtain ⟨ending, hending⟩ := hstops
            exact omits_of_stops hending rest
          · exact (ih (valid_tableAfterLine hvalid line) hrest).keep (not_exists.mp hstops)

/-- What a session on valid rows leaves behind is valid. -/
theorem valid_interact {start : Table} (hvalid : ∀ row ∈ start.toList, row.Valid)
    (lines : List Text) : ∀ row ∈ (interact start lines).table.toList, row.Valid := by
  obtain ⟨k, hplays⟩ := plays_interact start lines
  rw [hplays.table]
  exact valid_tableAfter hvalid _

/-- One idle line among others.  If the lines before it end the session it makes no
difference at all, and if not there is one more answer. -/
theorem interact_append_cons_of_idle {start : Table} (hvalid : ∀ row ∈ start.toList, row.Valid)
    {line : Text} (hidle : Idle line) (before after : List Text) :
    ((interact start before).ending ≠ .endOfInput →
      interact start (before ++ line :: after) = interact start (before ++ after)) ∧
    ((interact start before).ending = .endOfInput → ∃ shown later,
      (interact start before).output = shown ++ prompt ∧
      interact start (before ++ after) = Transcript.after shown later ∧
      interact start (before ++ line :: after) =
        later.after (shown ++ (prompt ++ response (interact start before).table line))) := by
  constructor
  · intro hending
    rw [interact_append_of_ending_ne hending, interact_append_of_ending_ne hending]
  · intro hending
    obtain ⟨shown, houtput, hwithout⟩ := interact_append_of_endOfInput hending after
    obtain ⟨shown', houtput', hwith⟩ := interact_append_of_endOfInput hending (line :: after)
    have hshown : shown' = shown := List.append_cancel_right (houtput'.symm.trans houtput)
    refine ⟨shown, _, houtput, hwithout, ?_⟩
    rw [hwith, hshown, interact_cons_of_idle hidle (valid_interact hvalid before),
      Transcript.after_after]

/-! ## Inputs -/

/-- Idle lines leave no trace but their answers.  Taken out of an input with its line
feed, such a line takes with it one prompt and its answer, if the session comes to it,
and nothing if not: what is shown before and after it, the ending and the table stay.
The same holds of any number of them, in any places: the answers to the other lines
are the answers there were. -/
theorem session_omit :
    (∀ before line after : Text, Text.EndsLine before → '\n' ∉ line → Idle line →
      ((session before).ending ≠ .endOfInput →
        session (before ++ line ++ '\n' :: after) = session (before ++ after)) ∧
      ((session before).ending = .endOfInput → ∃ shown later,
        (session before).output = shown ++ prompt ∧
        session (before ++ after) = Transcript.after shown later ∧
        session (before ++ line ++ '\n' :: after) =
          later.after (shown ++ (prompt ++ response (session before).table line)))) ∧
    ∀ (input input' : Text) (marked : List (Text × Bool)),
      input.lines = marked.map Prod.fst → input'.lines = unmarked marked →
      (∀ line, (line, true) ∈ marked → Idle line) →
        Omits .empty marked (session input) (session input') := by
  have hempty : ∀ row ∈ Table.empty.toList, row.Valid := by simp
  constructor
  · intro before line after hbefore hline hidle
    have hwith : session (before ++ line ++ '\n' :: after) =
        interact .empty (before.lines ++ line :: after.lines) := by
      rw [session, List.append_assoc, Text.lines_append hbefore, Text.lines_append_newline hline]
    have hwithout : session (before ++ after) =
        interact .empty (before.lines ++ after.lines) := by
      rw [session, Text.lines_append hbefore]
    rw [hwith, hwithout]
    exact interact_append_cons_of_idle hempty hidle before.lines after.lines
  · intro input input' marked hinput hinput' hidle
    rw [session, session, hinput, hinput']
    exact omits_interact hempty hidle

/-- Keywords are in lower case, and a line with another is rejected between an insert
and a select. -/
theorem session_omit_rejected :
    Text.EndsLine "insert 7 bob b@x\n".toList ∧ '\n' ∉ " SELECT ".toList ∧
    Idle " SELECT ".toList ∧ ∃ shown later,
      session ("insert 7 bob b@x\n".toList ++ "select\n".toList) = Transcript.after shown later ∧
      session ("insert 7 bob b@x\n".toList ++ " SELECT ".toList ++ '\n' :: "select\n".toList) =
        later.after (shown ++
          "db > Unrecognized keyword at start of 'SELECT'\n".toList) := by
  have hends : Text.EndsLine "insert 7 bob b@x\n".toList := .inr (by decide)
  have hnone : '\n' ∉ " SELECT ".toList := by decide
  have hneither : Unrecognizable " SELECT ".toList :=
    ⟨by decide +kernel, by decide +kernel, by decide +kernel⟩
  have hanswer : (run .empty " SELECT ".toList).answer =
      .error (.rejected (.unrecognized (Text.strip " SELECT ".toList))) := by
    rw [(Runs.unrecognized hneither).eq]
  have hidle : Idle " SELECT ".toList := .rejected hanswer
  have hending : (session "insert 7 bob b@x\n".toList).ending = .endOfInput := by decide +kernel
  have hresponse :
      prompt ++ response (session "insert 7 bob b@x\n".toList).table " SELECT ".toList =
        "db > Unrecognized keyword at start of 'SELECT'\n".toList := by
    decide +kernel
  obtain ⟨hline, -⟩ := session_omit
  obtain ⟨shown, later, -, hwithout, hwith⟩ := (hline _ _ _ hends hnone hidle).2 hending
  rw [hresponse] at hwith
  exact ⟨hends, hnone, hidle, shown, later, hwithout, hwith⟩

end UserDb.Shell
