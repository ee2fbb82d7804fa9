import UserDb.Proofs.Crash

/-!
# Sessions continued

What a session shows depends on the lines so far, never on those to come, and
all that one line leaves for the next is the table.  So a session on two inputs,
one behind the other, is made of two sessions: the first, without the prompt that
waits for its end of input, and the second on the table that the first left
behind.  If a line of the first input ends the session the second is not read at
all.

This is about lines, and for texts it takes that the first ends where a line does
(`Text.EndsLine`); otherwise its last line and the first of the other are one.

Which of the two cases holds can be read off the first input.  A line that ends a
session does so on every table that lines can make (`exists_stops_iff`), hence
wherever it stands, unless another has come before it.

## Main results

* `Plays.ending_ne_endOfInput_iff`: which inputs end a session before they end.
* `interact_append_of_ending_ne`, `interact_append_of_endOfInput`: the two cases,
  on any table.
* `session_append`: the session on two inputs, one behind the other.
-/

namespace UserDb.Shell

/-! ## Inputs that end a session early -/

/-- The line ends every session that comes to it: it is `.exit`, or an insert with a
number too long to be read. -/
def EndsSession (line : Text) : Prop :=
  line.strip = Command.exitText ∨ ∃ digits, Overlong line digits

/-- Where all numbers can be written, no other line ends a session. -/
theorem endsSession_of_stops {table : Table} {line : Text} {ending : Ending}
    (hwritable : ∀ row ∈ table.toList, Numeral.Writable row.id) (h : Stops table line ending) :
    EndsSession line := by
  cases ending with
  | endOfInput => cases h
  | exit => exact .inl (stops_exit_iff.mp h)
  | fault f =>
      cases h with
      | fault _ hanswer hf =>
          obtain ⟨digits, hlong, -⟩ := (run_limit_iff hwritable).mp ⟨hanswer, hf⟩
          exact .inr ⟨digits, hlong⟩

theorem exists_stops_iff {lines : List Text} {line : Text} :
    (∃ ending, Stops (tableAfter .empty lines) line ending) ↔ EndsSession line := by
  constructor
  · intro h
    obtain ⟨ending, hstops⟩ := h
    exact endsSession_of_stops (writable_tableAfter lines) hstops
  · intro h
    rcases h with hexit | ⟨digits, hlong⟩
    · exact ⟨.exit, stops_exit_iff.mpr hexit⟩
    · exact ⟨_, stops_of_overlong hlong _⟩

/-- A session ends with its input exactly if all its lines are answered. -/
theorem Plays.ending_eq_endOfInput_iff {start : Table} {lines : List Text} {k : Nat}
    {t : Transcript} (h : Plays start lines k t) :
    t.ending = .endOfInput ↔ k = lines.length := by
  constructor
  · intro hending
    by_cases hlt : k < lines.length
    · have hstops := h.stops _ (List.getElem?_eq_getElem hlt)
      rw [hending] at hstops
      cases hstops
    · have hle := h.le_length
      omega
  · intro hlength
    exact h.endOfInput hlength

/-- The lines that end a session are known by their texts. -/
theorem Plays.ending_ne_endOfInput_iff {lines : List Text} {k : Nat} {t : Transcript}
    (h : Plays .empty lines k t) :
    t.ending ≠ .endOfInput ↔ ∃ line ∈ lines, EndsSession line := by
  rw [ne_eq, h.ending_eq_endOfInput_iff]
  constructor
  · intro hne
    have hlt : k < lines.length := Nat.lt_of_le_of_ne h.le_length hne
    have hstops := h.stops _ (List.getElem?_eq_getElem hlt)
    exact ⟨lines[k], List.getElem_mem hlt, exists_stops_iff.mp ⟨_, hstops⟩⟩
  · intro hends hlength
    obtain ⟨line, hmem, hline⟩ := hends
    obtain ⟨i, hi, rfl⟩ := List.getElem_of_mem hmem
    obtain ⟨ending, hstops⟩ := exists_stops_iff.mpr hline
    have hik : i < k := by omega
    exact h.goes_on i hik _ (List.getElem?_eq_getElem hi) ending hstops

/-! ## Lines behind lines -/

theorem prompt_isPrefix_interact (table : Table) (lines : List Text) :
    prompt <+: (interact table lines).output := by
  cases lines with
  | nil => exact List.prefix_refl prompt
  | cons line rest =>
      unfold interact
      split
      · next text table' _ =>
          show prompt <+: prompt ++ text ++ (interact table' rest).output
          rw [List.append_assoc]
          exact List.prefix_append _ _
      · exact List.prefix_refl prompt

/-- A session that has been ended reads no further. -/
theorem interact_append_of_ending_ne {table : Table} {lines : List Text}
    (h : (interact table lines).ending ≠ .endOfInput) (more : List Text) :
    interact table (lines ++ more) = interact table lines := by
  obtain ⟨k, hplays⟩ := plays_interact table lines
  have hlt : k < lines.length := by
    apply Nat.lt_of_le_of_ne hplays.le_length
    intro heq
    exact h (hplays.endOfInput heq)
  have hsplit : lines ++ more = lines.take (k + 1) ++ (lines.drop (k + 1) ++ more) := by
    rw [← List.append_assoc, List.take_append_drop]
  rw [hsplit]
  exact hplays.unread hlt _

/-- A session that has come to the end of its lines goes on with others where it
stands: the prompt it waits at is the first of the rest. -/
theorem interact_append_of_endOfInput {table : Table} {lines : List Text}
    (h : (interact table lines).ending = .endOfInput) (more : List Text) :
    ∃ shown, (interact table lines).output = shown ++ prompt ∧
      interact table (lines ++ more) =
        (interact (interact table lines).table more).after shown := by
  -- Along the lines, on whatever table they find: what the first is answered with stays
  -- in front of all that the rest brings about, with or without the further lines.
  induction lines generalizing table with
  | nil => exact ⟨[], rfl, rfl⟩
  | cons line rest ih =>
      by_cases hstops : ∃ ending, Stops table line ending
      · obtain ⟨ending, hending⟩ := hstops
        rw [interact_cons_of_stops hending] at h
        have hend : ending = .endOfInput := h
        subst hend
        cases hending
      · have hnot := not_exists.mp hstops
        rw [interact_cons_of_not_stops hnot] at h ⊢
        obtain ⟨shown, houtput, happend⟩ := ih h
        refine ⟨prompt ++ response table line ++ shown, ?_, ?_⟩
        · rw [houtput, List.append_assoc _ shown]
        · rw [List.cons_append, interact_cons_of_not_stops hnot, happend]
          simp only [Transcript.after, List.append_assoc]

/-! ## Inputs behind inputs -/

/-- The session on an input that goes on where another ends with a line.  What the
other shows comes first.  If the other has a line that ends the session, that is
all there is; if not, its last prompt is the first of the session on the rest, which
starts with the table left behind and ends as a session of its own. -/
theorem session_append {s : Text} (hs : Text.EndsLine s) (t : Text) :
    (session s).output <+: (session (s ++ t)).output ∧
    ((session s).ending ≠ .endOfInput ↔ ∃ line ∈ s.lines, EndsSession line) ∧
    ((session s).ending ≠ .endOfInput → session (s ++ t) = session s) ∧
    ((session s).ending = .endOfInput → ∃ shown, (session s).output = shown ++ prompt ∧
      session (s ++ t) = (interact (session s).table t.lines).after shown) := by
  have happend : session (s ++ t) = interact .empty (s.lines ++ t.lines) := by
    rw [session, Text.lines_append hs]
  have hstopped : (session s).ending ≠ .endOfInput → session (s ++ t) = session s := by
    intro hending
    rw [happend]
    exact interact_append_of_ending_ne hending t.lines
  have hcontinued : (session s).ending = .endOfInput →
      ∃ shown, (session s).output = shown ++ prompt ∧
        session (s ++ t) = (interact (session s).table t.lines).after shown := by
    intro hending
    rw [happend]
    exact interact_append_of_endOfInput hending t.lines
  obtain ⟨k, hplays⟩ := plays_interact .empty s.lines
  refine ⟨?_, hplays.ending_ne_endOfInput_iff, hstopped, hcontinued⟩
  by_cases hending : (session s).ending = .endOfInput
  · obtain ⟨shown, houtput, hsession⟩ := hcontinued hending
    rw [houtput, hsession]
    exact (List.prefix_append_right_inj shown).mpr (prompt_isPrefix_interact _ _)
  · exact (hstopped hending).symm ▸ List.prefix_refl (session s).output

/-- After `.exit` nothing is read. -/
theorem session_append_exit :
    Text.EndsLine "insert 7 bob b@x\n .exit \n".toList ∧
    session ("insert 7 bob b@x\n .exit \n".toList ++ "select\n".toList) =
      session "insert 7 bob b@x\n .exit \n".toList := by
  have hs : Text.EndsLine "insert 7 bob b@x\n .exit \n".toList := .inr (by decide)
  obtain ⟨-, hwhich, hstopped, -⟩ := session_append hs "select\n".toList
  refine ⟨hs, hstopped (hwhich.mpr ⟨" .exit ".toList, by decide, .inl ?_⟩)⟩
  rw [Command.exitText, Text.ofString_eq]
  decide

end UserDb.Shell
