import UserDb.Proofs.Lines
import UserDb.Shell

/-!
# The transcript of a session

The shell runs the lines that are not blank, one after the other, on one table.
This file says what a session comes to without the shell's loop: the table that
a line finds is the one that the lines before it left behind (`tableAt`), its
`response` is read off the outcome of its run, and the session ends at the first
line that `Stops` it, or with the input.

`Plays` collects what the transcript then has to be.  Its field `unread` is what
is meant by lines that come too late: the transcript would have been the same
with any others in their place.

## Main results

* `react_of_stops`, `react_of_not_stops`: what one line does.
* `plays_interact`: the loop, on any table and lines.
* `Plays.ending_eq_fault_iff`: which line a fault comes from.
* `session_plays`: the session on an input text.
-/

namespace UserDb.Shell

/-! ## One line -/

/-- The line ends the session: it is not blank, and it is answered by the end or
raises a fault that is no rejection. -/
inductive Stops (table : Table) (line : Text) : Ending → Prop
  | exit {output : Text} : line.strip ≠ [] → (run table line).answer = .ok ⟨output, .exit⟩ →
      Stops table line .exit
  | fault {f : Fault} : line.strip ≠ [] → (run table line).answer = .error f →
      f.rejection? = none → Stops table line (.fault f)

/-- A line ends a session in one way only. -/
theorem Stops.unique {table : Table} {line : Text} {ending ending' : Ending}
    (h : Stops table line ending) (h' : Stops table line ending') : ending = ending' := by
  cases h with
  | exit _ hanswer =>
      cases h' with
      | exit => rfl
      | fault _ hanswer' =>
          rw [hanswer] at hanswer'
          cases hanswer'
  | fault _ hanswer =>
      cases h' with
      | exit _ hanswer' =>
          rw [hanswer] at hanswer'
          cases hanswer'
      | fault _ hanswer' =>
          rw [hanswer] at hanswer'
          rw [Except.error.inj hanswer']

/-- What is shown in answer to a line that does not end the session: nothing if
it is blank, else the output of its run or the message of its rejection. -/
def response (table : Table) (line : Text) : Text :=
  if line.strip = [] then []
  else
    match (run table line).answer with
    | .ok reply => reply.output
    | .error f => f.message ++ ['\n']

theorem react_of_stops {table : Table} {line : Text} {ending : Ending}
    (h : Stops table line ending) : react table line = .ended ending (run table line).table := by
  cases h with
  | exit hblank hanswer =>
      simp only [react, if_neg hblank, Reaction.ofOutcome, hanswer]
  | fault hblank hanswer hf =>
      simp only [react, if_neg hblank, Reaction.ofOutcome, hanswer]
      split
      · next h => simp at h
      · next h => simp at h
      · next h =>
          rw [Except.error.inj h] at hf
          simp [Fault.rejection?] at hf
      · next h => rw [Except.error.inj h]

/-- The table that a line leaves behind: a blank line is not run. -/
def tableAfterLine (table : Table) (line : Text) : Table :=
  if line.strip = [] then table else (run table line).table

theorem react_of_not_stops {table : Table} {line : Text} (h : ∀ ending, ¬ Stops table line ending) :
    react table line = .answered (response table line) (tableAfterLine table line) := by
  by_cases hblank : line.strip = []
  · simp only [react, response, tableAfterLine, if_pos hblank]
  · simp only [react, response, tableAfterLine, if_neg hblank, Reaction.ofOutcome]
    cases hanswer : (run table line).answer with
    | ok reply =>
        obtain ⟨output, action⟩ := reply
        cases action with
        | proceed => rfl
        | exit => exact absurd (.exit hblank hanswer) (h .exit)
    | error f =>
        cases f with
        | rejected why => rfl
        | limit e => exact absurd (.fault hblank hanswer rfl) (h _)
        | unknownStatement verb => exact absurd (.fault hblank hanswer rfl) (h _)
        | unknownMeta verb => exact absurd (.fault hblank hanswer rfl) (h _)

/-! ## The lines of a session -/

/-- The table that the line at `i` finds: the lines before it have been run, apart
from the blank ones. -/
def tableAt (table : Table) (lines : List Text) (i : Nat) : Table :=
  tableAfter table ((lines.take i).filter fun line => line.strip ≠ [])

@[simp] theorem tableAt_zero (table : Table) (lines : List Text) :
    tableAt table lines 0 = table := rfl

@[simp] theorem tableAt_nil (table : Table) (i : Nat) : tableAt table [] i = table := by
  simp [tableAt]

theorem tableAt_cons_succ (table : Table) (line : Text) (rest : List Text) (i : Nat) :
    tableAt table (line :: rest) (i + 1) = tableAt (tableAfterLine table line) rest i := by
  by_cases hblank : line.strip = []
  · simp [tableAt, tableAfterLine, hblank]
  · simp [tableAt, tableAfterLine, hblank]

/-- The responses to the lines, each on the table that its line finds. -/
def responses (table : Table) (lines : List Text) : List Text :=
  lines.mapIdx fun i line => response (tableAt table lines i) line

theorem responses_cons (table : Table) (line : Text) (rest : List Text) :
    responses table (line :: rest) =
      response table line :: responses (tableAfterLine table line) rest := by
  simp only [responses, List.mapIdx_cons, tableAt_zero, tableAt_cons_succ]

/-! ## The loop -/

/-- The transcript with more shown in front of it. -/
def Transcript.after (shown : Text) (t : Transcript) : Transcript :=
  { t with output := shown ++ t.output }

theorem Transcript.after_after (t : Transcript) (shown shown' : Text) :
    (t.after shown').after shown = t.after (shown ++ shown') := by
  simp only [Transcript.after, List.append_assoc]

theorem interact_cons_of_stops {table : Table} {line : Text} {ending : Ending}
    (h : Stops table line ending) (rest : List Text) :
    interact table (line :: rest) = ⟨prompt, ending, (run table line).table⟩ := by
  rw [interact, react_of_stops h]

theorem interact_cons_of_not_stops {table : Table} {line : Text}
    (h : ∀ ending, ¬ Stops table line ending) (rest : List Text) :
    interact table (line :: rest) =
      { interact (tableAfterLine table line) rest with
        output := prompt ++ response table line ++
          (interact (tableAfterLine table line) rest).output } := by
  rw [interact, react_of_not_stops h]

/-- The transcript `t` is that of a session on `lines`, starting with `start`, which
was ended by the line at `k`, or by the end of the input if there is no such
line. -/
structure Plays (start : Table) (lines : List Text) (k : Nat) (t : Transcript) : Prop where
  /-- At most all lines are answered. -/
  le_length : k ≤ lines.length
  /-- No line before the one at `k` ends the session. -/
  goes_on : ∀ i < k, ∀ line, lines[i]? = some line →
    ∀ ending, ¬ Stops (tableAt start lines i) line ending
  /-- Without a line at `k` the session ends with the input. -/
  endOfInput : k = lines.length → t.ending = .endOfInput
  /-- A line at `k` ends the session, as it is recorded. -/
  stops : ∀ line, lines[k]? = some line → Stops (tableAt start lines k) line t.ending
  /-- A prompt is shown before each answer, and once more. -/
  output : t.output = ((responses start lines).take k).flatMap (prompt ++ ·) ++ prompt
  /-- All lines that are run are those up to the one at `k`. -/
  table : t.table = tableAt start lines (k + 1)
  /-- What comes after the line at `k` makes no difference. -/
  unread : k < lines.length → ∀ later, interact start (lines.take (k + 1) ++ later) = t

theorem plays_nil (start : Table) : Plays start [] 0 (interact start []) :=
  { le_length := Nat.le_refl 0
    goes_on := by simp
    endOfInput := fun _ => rfl
    stops := by simp
    output := rfl
    table := (tableAt_nil start 1).symm
    unread := by simp }

theorem plays_of_stops {start : Table} {line : Text} {ending : Ending}
    (h : Stops start line ending) (rest : List Text) :
    Plays start (line :: rest) 0 (interact start (line :: rest)) := by
  have hblank : line.strip ≠ [] := by cases h <;> assumption
  have hinteract := interact_cons_of_stops h
  exact
    { le_length := Nat.zero_le _
      goes_on := by simp
      endOfInput := by simp
      stops := by
        intro line' hline'
        have heq : line = line' := by simpa using hline'
        rw [hinteract, ← heq]
        exact h
      output := by simp [hinteract]
      table := by simp [hinteract, tableAt_cons_succ, tableAfterLine, hblank]
      unread := by simp [hinteract] }

/-- A line that does not end the session puts its answer in front of what is shown
from then on. -/
theorem Plays.cons {start : Table} {line : Text} {rest : List Text} {k : Nat}
    (h : ∀ ending, ¬ Stops start line ending)
    (hk : Plays (tableAfterLine start line) rest k (interact (tableAfterLine start line) rest)) :
    Plays start (line :: rest) (k + 1) (interact start (line :: rest)) := by
  have hinteract := interact_cons_of_not_stops h
  exact
    { le_length := Nat.succ_le_succ hk.le_length
      goes_on := by
        intro i hi line' hline'
        cases i with
        | zero =>
            have heq : line = line' := by simpa using hline'
            rw [tableAt_zero, ← heq]
            exact h
        | succ i =>
            rw [tableAt_cons_succ]
            exact hk.goes_on i (by omega) line' hline'
      endOfInput := by
        intro hlength
        rw [hinteract]
        exact hk.endOfInput (Nat.succ.inj hlength)
      stops := by
        intro line' hline'
        rw [hinteract, tableAt_cons_succ]
        exact hk.stops line' hline'
      output := by
        rw [hinteract, hk.output, responses_cons, List.take_succ_cons, List.flatMap_cons]
        simp only [List.append_assoc]
      table := by
        rw [hinteract, hk.table, tableAt_cons_succ]
      unread := by
        intro hlt later
        have hlt' : k < rest.length := Nat.lt_of_succ_lt_succ hlt
        rw [List.take_succ_cons, List.cons_append, hinteract, hinteract, hk.unread hlt' later] }

theorem plays_interact (start : Table) (lines : List Text) :
    ∃ k, Plays start lines k (interact start lines) := by
  induction lines generalizing start with
  | nil => exact ⟨0, plays_nil start⟩
  | cons line rest ih =>
      by_cases hstops : ∃ ending, Stops start line ending
      · obtain ⟨ending, hending⟩ := hstops
        exact ⟨0, plays_of_stops hending rest⟩
      · obtain ⟨k, hk⟩ := ih (tableAfterLine start line)
        exact ⟨k + 1, hk.cons fun ending hending => hstops ⟨ending, hending⟩⟩

/-- A fault that ends a session was raised by the line at `k`. -/
theorem Plays.ending_eq_fault_iff {start : Table} {lines : List Text} {k : Nat} {t : Transcript}
    {f : Fault} (h : Plays start lines k t) :
    t.ending = .fault f ↔
      ∃ line, lines[k]? = some line ∧ Stops (tableAt start lines k) line (.fault f) := by
  constructor
  · intro hending
    have hlength : k < lines.length := by
      apply Nat.lt_of_le_of_ne h.le_length
      intro heq
      have hend := h.endOfInput heq
      rw [hending] at hend
      cases hend
    have hline : lines[k]? = some lines[k] := List.getElem?_eq_getElem hlength
    have hstops := h.stops _ hline
    rw [hending] at hstops
    exact ⟨_, hline, hstops⟩
  · intro hraised
    rcases hraised with ⟨line, hline, hstops⟩
    exact (h.stops line hline).unique hstops

theorem Ending.exitCode_ne_zero_iff {ending : Ending} :
    ending.exitCode ≠ 0 ↔ ∃ f, ending = .fault f := by
  cases ending with
  | endOfInput => simp [exitCode]
  | exit => simp [exitCode]
  | fault f => simp [exitCode]

/-! ## The session on an input text -/

/-- A session at the prompt is a run of the lines of its input that are not blank,
one after the other on a table without rows, up to the first that answers the end
or raises what is no rejection.  In the second case alone the exit code is not
zero. -/
theorem session_plays (input : Text) :
    Text.IsLines input input.lines ∧ ∃ k, Plays .empty input.lines k (session input) ∧
      ((session input).ending.exitCode ≠ 0 ↔ ∃ line f, input.lines[k]? = some line ∧
        Stops (tableAt .empty input.lines k) line (.fault f)) := by
  obtain ⟨k, hplays⟩ := plays_interact .empty input.lines
  refine ⟨Text.isLines_lines input, k, hplays, ?_⟩
  calc
    (session input).ending.exitCode ≠ 0 ↔ ∃ f, (session input).ending = .fault f :=
      Ending.exitCode_ne_zero_iff
    _ ↔ ∃ f line, input.lines[k]? = some line ∧
        Stops (tableAt .empty input.lines k) line (.fault f) :=
      exists_congr fun _ => hplays.ending_eq_fault_iff
    _ ↔ ∃ line f, input.lines[k]? = some line ∧
        Stops (tableAt .empty input.lines k) line (.fault f) := exists_comm

end UserDb.Shell
