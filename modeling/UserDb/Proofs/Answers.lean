import UserDb.Proofs.Listing
import UserDb.Proofs.Transcript

/-!
# Telling the answers apart

A transcript is one text, in which nothing marks where an answer ends and the next
prompt begins.  Names, addresses and refused lines are shown as they are, so an
answer may hold the text of a prompt, or lines that look like another answer.

The answers can be told apart by their first characters and their line feeds
alone.  An answer that is not empty is a `Block`: whole lines, all but the last of
which begin like the line of a row, and none of which begins like a prompt.  What a
line goes on with is of no account, as long as it holds no line feed, and neither a
stored field nor a refused line does.  So a block shows where it ends whatever
comes after it (`Block.append_inj`), and the prompt that has to come after it tells
a block from no answer at all (`IsAnswer.append_inj`).

## Main results

* `isAnswer_response`: what a line is answered with has this form.
* `display_inj`: answers of this form are known from their display.
* `session_display`: so are the answers of a session from its transcript.
-/

namespace UserDb

namespace Text

/-- The first separator shows where the part before it ends. -/
theorem append_cons_inj {s s' rest rest' : Text} {c : Char} (hs : c ∉ s) (hs' : c ∉ s')
    (h : s ++ c :: rest = s' ++ c :: rest') : s = s' ∧ rest = rest' := by
  rcases append_cons_cases hs h with ⟨hpart, hrest⟩ | ⟨middle, hpart, -⟩
  · exact ⟨hpart.symm, hrest.symm⟩
  · exact absurd (by simp [hpart]) hs'

/-- Stripping adds nothing. -/
theorem mem_of_mem_strip {t : Text} {c : Char} (h : c ∈ t.strip) : c ∈ t := by
  obtain ⟨-, before, after, -, -, ht⟩ := strip_eq_iff.mp (rfl : t.strip = t.strip)
  rw [ht]
  simp [h]

end Text

namespace Shell

/-! ## Blocks of lines -/

/-- Whole lines, of which the last, and no other, begins unlike the line of a row.
None begins like a prompt. -/
inductive Block : Text → Prop
  | closing {line : Text} {c : Char} : '\n' ∉ line → line.head? = some c → c ≠ '(' → c ≠ 'd' →
      Block (line ++ ['\n'])
  | row {line rest : Text} : '\n' ∉ line → line.head? = some '(' → Block rest →
      Block (line ++ '\n' :: rest)

/-- The first character of a block is not that of a prompt. -/
theorem Block.head?_append_ne {t : Text} (h : Block t) (x : Text) :
    (t ++ x).head? ≠ some 'd' := by
  cases h with
  | closing _ hhead _ hprompt => simpa [hhead] using hprompt
  | row _ hhead _ => simp [hhead]

/-- Two blocks begin with one line, or end with one, but not both: the first
character of a line tells which. -/
theorem Block.append_inj {a b x y : Text} (ha : Block a) (hb : Block b) (h : a ++ x = b ++ y) :
    a = b ∧ x = y := by
  -- Along the lines of the first block.  Both texts have the same first line, because it
  -- ends at their first line feed, and so it has the same part in both blocks.
  induction ha generalizing b with
  | @closing line c hline hhead hrow _ =>
      cases hb with
      | closing hline' _ _ _ =>
          simp only [List.append_assoc, List.cons_append, List.nil_append] at h
          obtain ⟨rfl, rfl⟩ := Text.append_cons_inj hline hline' h
          exact ⟨rfl, rfl⟩
      | row hline' hhead' _ =>
          simp only [List.append_assoc, List.cons_append, List.nil_append] at h
          obtain ⟨rfl, -⟩ := Text.append_cons_inj hline hline' h
          rw [hhead] at hhead'
          exact absurd (Option.some.inj hhead') hrow
  | @row line rest hline hhead _ ih =>
      cases hb with
      | closing hline' hhead' hrow _ =>
          simp only [List.append_assoc, List.cons_append, List.nil_append] at h
          obtain ⟨rfl, -⟩ := Text.append_cons_inj hline hline' h
          rw [hhead] at hhead'
          exact absurd (Option.some.inj hhead').symm hrow
      | row hline' _ hrest =>
          simp only [List.append_assoc, List.cons_append] at h
          obtain ⟨rfl, htail⟩ := Text.append_cons_inj hline hline' h
          obtain ⟨rfl, rfl⟩ := ih hrest htail
          exact ⟨rfl, rfl⟩

/-! ## Answers and their display -/

/-- The text may answer a line: it is empty or a block. -/
def IsAnswer (t : Text) : Prop := t = [] ∨ Block t

/-- Where a prompt follows, the answer before it shows where it ends. -/
theorem IsAnswer.append_inj {a b x y : Text} (ha : IsAnswer a) (hb : IsAnswer b)
    (hx : x.head? = some 'd') (hy : y.head? = some 'd') (h : a ++ x = b ++ y) :
    a = b ∧ x = y := by
  rcases ha with rfl | ha
  · rcases hb with rfl | hb
    · exact ⟨rfl, h⟩
    · rw [List.nil_append] at h
      rw [h] at hx
      exact absurd hx (hb.head?_append_ne y)
  · rcases hb with rfl | hb
    · rw [List.nil_append] at h
      rw [← h] at hy
      exact absurd hy (ha.head?_append_ne x)
    · exact ha.append_inj hb h

/-- The answers as they are shown: each after a prompt, and a last prompt. -/
def display (answers : List Text) : Text := answers.flatMap (prompt ++ ·) ++ prompt

theorem display_cons (a : Text) (answers : List Text) :
    display (a :: answers) = prompt ++ (a ++ display answers) := by
  simp only [display, List.flatMap_cons, List.append_assoc]

theorem head?_prompt : prompt.head? = some 'd' := by
  rw [prompt, Text.ofString_eq]
  rfl

theorem head?_display (answers : List Text) : (display answers).head? = some 'd' := by
  cases answers with
  | nil => exact head?_prompt
  | cons a rest => rw [display_cons, List.head?_append, head?_prompt, Option.some_or]

/-- Only no answers are shown by a prompt alone. -/
theorem prompt_ne_display_cons (a : Text) (answers : List Text) :
    prompt ≠ display (a :: answers) := by
  intro h
  rw [display_cons] at h
  have hnil := List.self_eq_append_right.mp h
  have hhead := head?_display answers
  rw [(List.append_eq_nil_iff.mp hnil).2] at hhead
  cases hhead

/-- Answers are known from their display. -/
theorem display_inj {as bs : List Text} (has : ∀ a ∈ as, IsAnswer a) (hbs : ∀ b ∈ bs, IsAnswer b)
    (h : display as = display bs) : as = bs := by
  induction as generalizing bs with
  | nil =>
      cases bs with
      | nil => rfl
      | cons b bs => exact absurd h (prompt_ne_display_cons b bs)
  | cons a as ih =>
      cases bs with
      | nil => exact absurd h.symm (prompt_ne_display_cons a as)
      | cons b bs =>
          rw [display_cons, display_cons, List.append_cancel_left_eq] at h
          obtain ⟨rfl, hrest⟩ := (has a (by simp)).append_inj (hbs b (by simp))
            (head?_display as) (head?_display bs) h
          have has' : ∀ a' ∈ as, IsAnswer a' := fun a' ha' => has a' (by simp [ha'])
          have hbs' : ∀ b' ∈ bs, IsAnswer b' := fun b' hb' => hbs b' (by simp [hb'])
          rw [ih has' hbs' hrest]

/-! ## What lines are answered with -/

theorem block_executedLine : Block Reply.executedLine := by
  have hline : Reply.executedLine = "Executed.".toList ++ ['\n'] := by
    rw [Reply.executedLine, Text.ofString_eq]
    rfl
  rw [hline]
  exact .closing (c := 'E') (by decide) rfl (by decide) (by decide)

theorem block_selectOutput {rows : List Row} (h : ∀ row ∈ rows, row.Valid) :
    Block (selectOutput rows) := by
  induction rows with
  | nil => exact block_executedLine
  | cons row rows ih =>
      rw [selectOutput_cons]
      exact .row (Row.newline_not_mem_line (h row (by simp))) rfl
        (ih fun row' hrow' => h row' (by simp [hrow']))

theorem block_unrecognized {text : Text} (h : '\n' ∉ text) :
    Block ((Rejection.unrecognized text).message ++ ['\n']) := by
  have hbefore : '\n' ∉ Text.ofString "Unrecognized keyword at start of '" := by
    rw [Text.ofString_eq]
    decide
  have hafter : '\n' ∉ Text.ofString "'" := by
    rw [Text.ofString_eq]
    decide
  have hhead : (Rejection.unrecognized text).message.head? = some 'U' := by
    rw [Rejection.message, Text.ofString_eq]
    rfl
  refine .closing ?_ hhead (by decide) (by decide)
  simp [Rejection.message, hbefore, h, hafter]

theorem block_column (column : Column) : Block ((Fault.column column).message ++ ['\n']) := by
  refine .closing (c := 'S') ?_ ?_ (by decide) (by decide)
  · cases column <;>
      simp only [Fault.column, Fault.message, Rejection.message, Column.name, Text.ofString_eq] <;>
      decide
  · simp only [Fault.column, Fault.message, Rejection.message, Text.ofString_eq]
    rfl

/-- On valid rows, a line that does not end the session is answered by an answer. -/
theorem isAnswer_response {table : Table} {line : Text}
    (hvalid : ∀ row ∈ table.toList, row.Valid) (hline : '\n' ∉ line)
    (hnot : ∀ ending, ¬ Stops table line ending) : IsAnswer (response table line) := by
  unfold response
  by_cases hblank : line.strip = []
  · rw [if_pos hblank]
    exact .inl rfl
  · rw [if_neg hblank]
    have hstops : ∀ f, (run table line).answer = .error f → f.rejection? ≠ none :=
      fun f hanswer hf => hnot _ (.fault hblank hanswer hf)
    have hruns := runs_run table line
    generalize run table line = o at hstops hruns ⊢
    cases hruns with
    | exit => exact .inl rfl
    | inserted => exact .inr block_executedLine
    | notInserted _ hrow =>
        rcases Row.limit_or_column_of_parse_eq_error hrow with ⟨e, rfl⟩ | ⟨column, rfl⟩
        · exact absurd rfl (hstops _ rfl)
        · exact .inr (block_column column)
    | selected =>
        rw [Table.listing_eq_ok fun row hrow => (hvalid row hrow).id_writable]
        exact .inr (block_selectOutput hvalid)
    | unrecognized =>
        exact .inr (block_unrecognized fun hmem => hline (Text.mem_of_mem_strip hmem))

/-- All that is shown in a session between the prompts are answers. -/
theorem Plays.isAnswer {input : Text} {k : Nat} {t : Transcript}
    (h : Plays .empty input.lines k t) :
    ∀ a ∈ (responses .empty input.lines).take k, IsAnswer a := by
  intro a ha
  obtain ⟨i, hi, rfl⟩ := List.mem_take_iff_getElem.mp ha
  have hik : i < k := by omega
  have hlength : i < input.lines.length := by
    have hle := h.le_length
    omega
  show IsAnswer (responses .empty input.lines)[i]
  simp only [responses, List.getElem_mapIdx]
  apply isAnswer_response
  · intro row hrow
    exact valid_of_mem_tableAfter hrow
  · exact Text.newline_not_mem_of_mem_lines (List.getElem_mem hlength)
  · exact h.goes_on i hik _ (List.getElem?_eq_getElem hlength)

/-- The transcript of a session shows what each line was answered with, up to the one
that ended the session, and how many lines that were.  Two inputs that lead to the
same text on the screen have been given the same answers. -/
theorem session_display (input input' : Text) :
    ∃ k k', Plays .empty input.lines k (session input) ∧
      Plays .empty input'.lines k' (session input') ∧
      (session input).output = display ((responses .empty input.lines).take k) ∧
      ((session input).output = (session input').output →
        k = k' ∧
          (responses .empty input.lines).take k = (responses .empty input'.lines).take k') := by
  obtain ⟨k, hplays⟩ := plays_interact .empty input.lines
  obtain ⟨k', hplays'⟩ := plays_interact .empty input'.lines
  refine ⟨k, k', hplays, hplays', hplays.output, ?_⟩
  intro houtput
  have hdisplay : display ((responses .empty input.lines).take k) =
      display ((responses .empty input'.lines).take k') := by
    calc
      display ((responses .empty input.lines).take k) = (session input).output :=
        hplays.output.symm
      _ = (session input').output := houtput
      _ = display ((responses .empty input'.lines).take k') := hplays'.output
  have hanswers := display_inj hplays.isAnswer hplays'.isAnswer hdisplay
  refine ⟨?_, hanswers⟩
  have hlengths := congrArg List.length hanswers
  have hle := hplays.le_length
  have hle' := hplays'.le_length
  simp only [List.length_take, responses, List.length_mapIdx] at hlengths
  omega

end Shell

end UserDb
