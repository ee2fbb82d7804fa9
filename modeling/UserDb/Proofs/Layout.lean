import Mathlib.Logic.Relation
import UserDb.Proofs.Classification
import UserDb.Proofs.Grammar
import UserDb.Proofs.Lines
import UserDb.Proofs.Transcript

/-!
# Layout does not matter

There are three places where an input is cut: at line feeds, at the ends of a line
and, in the argument of an insert, between its words.  The blanks at each of them may
be chosen freely, and this file says that a session does not depend on the choice.

Lines are compared by what they ask for.  `SameRequest` holds of two lines that are
the same without the blanks around them, and of two inserts that have the same words.
For the second it takes that a line is an insert, and what its argument is, up to
blanks, can be read off its words alone, whether or not a blank follows the keyword
(`Text.words_word_append`).

## Main results

* `run_congr`, `react_congr`: lines that ask for the same are answered alike.
* `interact_congr`: one line of a session may be replaced by another such line.
* `session_respaced`: inputs that differ in layout have the same session.
-/

namespace UserDb

namespace Text

/-! ## Words behind a word -/

/-- A gap separates the words on its two sides, whichever blanks it is made of. -/
theorem words_append_gap {gap : Text} (h : gap.Blank) (hne : gap ≠ []) (s t : Text) :
    words (s ++ gap ++ t) = words s ++ words t := by
  rw [List.append_assoc, words_append_startsBlank (startsBlank_append h hne t),
    words_append_left h]

/-- A word put in front of a text, without a gap, becomes part of its first word, if the
text begins with one. -/
theorem words_word_append {word : Text} (hword : word.IsWord) (t : Text) :
    ∃ more others, words (word ++ t) = (word ++ more) :: others ∧
      words t = if more = [] then others else more :: others := by
  obtain ⟨more, rest, hmore, hrest, rfl⟩ := exists_span (!isBlank ·) t
  have hletters : ∀ c ∈ more, isBlank c = false := by simpa using hmore
  have hstart : rest.StartsBlank := by simpa [StartsBlank] using hrest
  refine ⟨more, words rest, ?_, ?_⟩
  · have hlonger : IsWord (word ++ more) := by
      refine ⟨by simp [hword.1], fun c hc => ?_⟩
      exact (List.mem_append.mp hc).elim (hword.2 c) (hletters c)
    rw [← List.append_assoc]
    exact words_gap_word blank_nil hlonger hstart
  · split
    · next hnil => rw [hnil, List.nil_append]
    · next hne => exact words_gap_word blank_nil ⟨hne, hletters⟩ hstart

/-- So the words behind it are known from those of the whole. -/
theorem words_append_left_cancel {word s t : Text} (hword : word.IsWord)
    (h : words (word ++ s) = words (word ++ t)) : words s = words t := by
  obtain ⟨more, others, hwords, hs⟩ := words_word_append hword s
  obtain ⟨more', others', hwords', ht⟩ := words_word_append hword t
  rw [hwords, hwords', List.cons.injEq, List.append_cancel_left_eq] at h
  obtain ⟨rfl, rfl⟩ := h
  rw [hs, ht]

/-- A text begins with its first word, apart from blanks. -/
theorem isPrefix_strip_of_words {word t : Text} {others : List Text}
    (h : words t = word :: others) : word <+: t.strip := by
  have hstripped : t.strip.IsStripped := (strip_eq_iff.mp rfl).1
  rw [← words_strip] at h
  obtain ⟨gap, rest, hgap, -, -, -, hstrip⟩ := words_eq_cons_iff.mp h
  cases gap with
  | nil => exact ⟨rest, hstrip.symm⟩
  | cons c gap =>
      have hblank : isBlank c = true := hgap c (by simp)
      have hnone : isBlank c = false := hstripped.1 c (by rw [hstrip]; rfl)
      rw [hblank] at hnone
      cases hnone

end Text

/-! ## Lines -/

/-- The lines ask for the same: they differ at their ends only, or they are inserts of
the same words. -/
inductive SameRequest (line line' : Text) : Prop
  | strip : line.strip = line'.strip → SameRequest line line'
  | words : Statement.insertKeyword <+: line.strip → line.words = line'.words →
      SameRequest line line'

/-- Whether a line is an insert shows in its words, and so do those of its argument. -/
theorem exists_args_of_words {line line' args : Text}
    (hargs : line.strip = Statement.insertKeyword ++ args) (h : line.words = line'.words) :
    ∃ args', line'.strip = Statement.insertKeyword ++ args' ∧ args.words = args'.words := by
  obtain ⟨more, others, hwords, -⟩ := Text.words_word_append isWord_insertKeyword args
  have hline' : line'.words = (Statement.insertKeyword ++ more) :: others := by
    rw [← h, ← Text.words_strip, hargs, hwords]
  obtain ⟨args', hargs'⟩ :=
    (List.prefix_append _ _).trans (Text.isPrefix_strip_of_words hline')
  refine ⟨args', hargs'.symm, Text.words_append_left_cancel isWord_insertKeyword ?_⟩
  rw [hargs', ← hargs, Text.words_strip, Text.words_strip, h]

/-- Lines that ask for the same are answered alike, with the same effect.  They are not
logged alike. -/
theorem run_congr {line line' : Text} (h : SameRequest line line') (table : Table) :
    (run table line).answer = (run table line').answer ∧
      (run table line).table = (run table line').table := by
  cases h with
  | strip hstrip =>
      have hparse : Command.parse line = Command.parse line' := by
        rw [Command.parse, Command.parse, hstrip]
      cases hcommand : Command.parse line with
      | ok command =>
          rw [run_of_parse_eq_ok hcommand, run_of_parse_eq_ok (hparse ▸ hcommand)]
          exact ⟨rfl, rfl⟩
      | error why =>
          rw [run_of_parse_eq_error hcommand, run_of_parse_eq_error (hparse ▸ hcommand)]
          exact ⟨rfl, rfl⟩
  | words hinsert hwords =>
      obtain ⟨args, hargs⟩ := hinsert
      obtain ⟨args', hargs', hsame⟩ := exists_args_of_words hargs.symm hwords
      have hparse : Row.parse args = Row.parse args' := by rw [Row.parse, Row.parse, hsame]
      cases hrow : Row.parse args with
      | ok row =>
          rw [(Runs.inserted hargs.symm hrow).eq, (Runs.inserted hargs' (hparse ▸ hrow)).eq]
          exact ⟨rfl, rfl⟩
      | error f =>
          rw [(Runs.notInserted hargs.symm hrow).eq, (Runs.notInserted hargs' (hparse ▸ hrow)).eq]
          exact ⟨rfl, rfl⟩

theorem SameRequest.strip_eq_nil_iff {line line' : Text} (h : SameRequest line line') :
    line.strip = [] ↔ line'.strip = [] := by
  cases h with
  | strip hstrip => rw [hstrip]
  | words hinsert hwords =>
      rw [Text.strip_eq_nil_iff, Text.strip_eq_nil_iff, ← Text.words_eq_nil_iff,
        ← Text.words_eq_nil_iff, hwords]

namespace Shell

theorem react_congr {line line' : Text} (h : SameRequest line line') (table : Table) :
    react table line = react table line' := by
  obtain ⟨hanswer, htable⟩ := run_congr h table
  simp only [react, h.strip_eq_nil_iff, Reaction.ofOutcome, hanswer, htable]

/-- A line may be replaced by another that asks for the same. -/
theorem interact_congr {line line' : Text} (h : SameRequest line line') (table : Table)
    (before after : List Text) :
    interact table (before ++ line :: after) = interact table (before ++ line' :: after) := by
  induction before generalizing table with
  | nil => simp only [List.nil_append, interact, react_congr h]
  | cons first rest ih => simp only [List.cons_append, interact, ih]

/-! ## Inputs -/

/-- In the input made of the three parts, the second is a line: the first ends with a
line, and the third begins with the line feed of the second, or else nothing follows. -/
structure LineAt (before line after : Text) : Prop where
  endsLine_before : Text.EndsLine before
  newline_not_mem : '\n' ∉ line
  after_eq : (∃ rest, after = '\n' :: rest) ∨ after = [] ∧ line ≠ []

theorem LineAt.lines {before line after : Text} (h : LineAt before line after) :
    (before ++ line ++ after).lines = before.lines ++ line :: Text.lines (after.drop 1) := by
  rw [List.append_assoc, Text.lines_append h.endsLine_before]
  rcases h.after_eq with ⟨rest, rfl⟩ | ⟨rfl, hne⟩
  · rw [Text.lines_append_newline h.newline_not_mem]
    rfl
  · rw [List.append_nil, Text.lines_eq_singleton h.newline_not_mem hne]
    rfl

/-- A line in an input may be replaced by another that asks for the same. -/
theorem session_congr {before line line' after : Text} (hline : LineAt before line after)
    (hline' : LineAt before line' after) (h : SameRequest line line') :
    session (before ++ line ++ after) = session (before ++ line' ++ after) := by
  rw [session, session, hline.lines, hline'.lines, interact_congr h]

/-- The second input is the first with another layout, at one place. -/
inductive Respaced : Text → Text → Prop
  /-- The last line is given the line feed that it lacks. -/
  | ended {t : Text} : ¬ Text.EndsLine t → Respaced t (t ++ ['\n'])
  /-- Blanks are put around a line, which may be blank itself. -/
  | padded {before line after g h : Text} : LineAt before line after →
      g.Blank → '\n' ∉ g → h.Blank → '\n' ∉ h →
      Respaced (before ++ line ++ after) (before ++ (g ++ line ++ h) ++ after)
  /-- In an insert, blanks between two parts are replaced by others. -/
  | spaced {before left gap gap' right after : Text} : LineAt before (left ++ gap ++ right) after →
      Statement.insertKeyword <+: (left ++ gap ++ right).strip →
      gap.Blank → gap ≠ [] → gap'.Blank → gap' ≠ [] → '\n' ∉ gap' →
      Respaced (before ++ (left ++ gap ++ right) ++ after)
        (before ++ (left ++ gap' ++ right) ++ after)

theorem session_eq_of_respaced {input input' : Text} (h : Respaced input input') :
    session input = session input' := by
  cases h with
  | ended hends => rw [session, session, Text.lines_append_singleton_newline hends]
  | @padded before line after g h hline hg hng hh hnh =>
      have hpadded : LineAt before (g ++ line ++ h) after :=
        { endsLine_before := hline.endsLine_before
          newline_not_mem := by simp [hng, hline.newline_not_mem, hnh]
          after_eq := hline.after_eq.imp id fun hend => ⟨hend.1, by simp [hend.2]⟩ }
      exact session_congr hline hpadded (.strip (Text.strip_append hg hh line).symm)
  | @spaced before left gap gap' right after hline hinsert hgap hne hgap' hne' hn =>
      have hparts : '\n' ∉ left ∧ '\n' ∉ right := by
        have hnone := hline.newline_not_mem
        simp only [List.mem_append, not_or] at hnone
        exact ⟨hnone.1.1, hnone.2⟩
      have hspaced : LineAt before (left ++ gap' ++ right) after :=
        { endsLine_before := hline.endsLine_before
          newline_not_mem := by simp [hparts, hn]
          after_eq := hline.after_eq.imp id fun hend => ⟨hend.1, by simp [hne']⟩ }
      apply session_congr hline hspaced
      refine .words hinsert ?_
      rw [Text.words_append_gap hgap hne, Text.words_append_gap hgap' hne']

/-- A session does not depend on layout.  Inputs have the same transcript, ending and
table if they differ in any number of changes of three kinds: the last line may have
its line feed or lack it, any line may have any blanks around it, and those between
the words of an insert may be any others. -/
theorem session_respaced {input input' : Text} (h : Relation.EqvGen Respaced input input') :
    session input = session input' := by
  induction h with
  | rel _ _ hone => exact session_eq_of_respaced hone
  | refl _ => rfl
  | symm _ _ _ ih => exact ih.symm
  | trans _ _ _ _ _ ih ih' => exact ih.trans ih'

/-- The keyword of an insert gets another blank behind it, the line is indented, and the
input is closed with a line feed. -/
theorem session_respaced_insert :
    Relation.EqvGen Respaced "insert 7 bob b@x".toList "\t insert\u00a07 bob b@x\r\n".toList ∧
    session "insert 7 bob b@x".toList = session "\t insert\u00a07 bob b@x\r\n".toList := by
  have hline : LineAt [] ("insert".toList ++ [' '] ++ "7 bob b@x".toList) [] :=
    ⟨.inl rfl, by decide, .inr ⟨rfl, by decide⟩⟩
  have hinsert : Statement.insertKeyword <+:
      Text.strip ("insert".toList ++ [' '] ++ "7 bob b@x".toList) := by
    rw [Statement.insertKeyword, Text.ofString_eq]
    decide
  have hblank : Text.Blank ['\u00a0'] := by decide
  have hspaced : Respaced "insert 7 bob b@x".toList "insert\u00a07 bob b@x".toList := by
    simpa using Respaced.spaced hline hinsert (by decide) (by decide) hblank (by decide) (by decide)
  have hline' : LineAt [] "insert\u00a07 bob b@x".toList [] :=
    ⟨.inl rfl, by decide, .inr ⟨rfl, by decide⟩⟩
  have hbefore : Text.Blank "\t ".toList := by decide
  have hafter : Text.Blank "\r".toList := by decide
  have hpadded : Respaced "insert\u00a07 bob b@x".toList "\t insert\u00a07 bob b@x\r".toList := by
    simpa using Respaced.padded hline' hbefore (by decide) hafter (by decide)
  have hends : ¬ Text.EndsLine "\t insert\u00a07 bob b@x\r".toList := by
    simp [Text.EndsLine]
  have hended : Respaced "\t insert\u00a07 bob b@x\r".toList
      "\t insert\u00a07 bob b@x\r\n".toList := by
    simpa using Respaced.ended hends
  have h : Relation.EqvGen Respaced "insert 7 bob b@x".toList
      "\t insert\u00a07 bob b@x\r\n".toList :=
    .trans _ _ _ (.rel _ _ hspaced) (.trans _ _ _ (.rel _ _ hpadded) (.rel _ _ hended))
  exact ⟨h, session_respaced h⟩

end Shell

end UserDb
