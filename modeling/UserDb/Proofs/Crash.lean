import UserDb.Proofs.History
import UserDb.Proofs.Transcript

/-!
# When a session breaks down

A fault that is no rejection ends a session at the prompt.  There are three such
faults, and of these only one can be reached by lines: the number of an insert
may be too long to be read.  A line with such a number is `Overlong`, which is a
matter of its text alone.

The other faults are excluded for different reasons.  Verbs that the execution
does not know are never read from a line.  A number too long to be written is
never found in the table, because every row there has been read from a line,
and what is read can be written.

## Main results

* `run_limit_iff`: on a table made by lines, the faults that are no rejections
  are those of overlong lines.
* `stops_fault_iff`, `stops_exit_iff`: which lines end a session, and how.
* `session_fault_iff`: a session breaks down at its first overlong line, if it
  gets that far, and never otherwise.
-/

namespace UserDb

/-! ## Overlong numbers -/

/-- The line is an insert, and the first word of its argument is a numeral of
`digits` characters, more than can be read.  Nothing is asked of the rest. -/
def Overlong (line : Text) (digits : Nat) : Prop :=
  ∃ gap word rest : Text, line.strip = Statement.insertKeyword ++ (gap ++ word ++ rest) ∧
    gap.Blank ∧ rest.StartsBlank ∧ Numeral.isNumeral word = true ∧
      Numeral.maxDigits < word.length ∧ word.length = digits

theorem Overlong.insertKeyword_isPrefix {line : Text} {digits : Nat} (h : Overlong line digits) :
    Statement.insertKeyword <+: line.strip := by
  obtain ⟨gap, word, rest, hline, -⟩ := h
  exact ⟨_, hline.symm⟩

/-- An insert is overlong exactly when reading its argument goes past the digit
limit. -/
theorem overlong_iff {line args : Text} {digits : Nat}
    (h : line.strip = Statement.insertKeyword ++ args) :
    Overlong line digits ↔ Row.parse args = .error (.limit (.reading digits)) := by
  rw [Row.parse_eq_error_limit_iff]
  constructor
  · intro hline
    rcases hline with ⟨gap, word, rest, hline, hgap, hrest, hnumeral, hlong, rfl⟩
    rw [h, List.append_cancel_left_eq] at hline
    have hwords : args.words = word :: rest.words := by
      rw [hline]
      exact Text.words_gap_word hgap (Text.isWord_of_isNumeral hnumeral) hrest
    exact ⟨word, rest.words, hwords, hnumeral, hlong, rfl⟩
  · intro hlimit
    rcases hlimit with ⟨word, others, hwords, hnumeral, hlong, hdigits⟩
    obtain ⟨gap, rest, hgap, -, hrest, -, rfl⟩ := Text.words_eq_cons_iff.mp hwords
    exact ⟨gap, word, rest, h, hgap, hrest, hnumeral, hlong, Numeral.LimitError.reading.inj hdigits⟩

/-- An overlong line is a fault on every table. -/
theorem run_of_overlong {line : Text} {digits : Nat} (h : Overlong line digits) (table : Table) :
    (run table line).answer = .error (.limit (.reading digits)) := by
  obtain ⟨args, hargs⟩ := h.insertKeyword_isPrefix
  rw [(Runs.notInserted hargs.symm ((overlong_iff hargs.symm).mp h)).eq]

/-- On a table whose numbers can be written, all other lines are answered or
rejected. -/
theorem run_limit_iff {table : Table} {line : Text} {f : Fault}
    (hwritable : ∀ row ∈ table.toList, Numeral.Writable row.id) :
    ((run table line).answer = .error f ∧ f.rejection? = none) ↔
      ∃ digits, Overlong line digits ∧ f = .limit (.reading digits) := by
  constructor
  · intro h
    rcases h with ⟨hanswer, hf⟩
    have hruns := runs_run table line
    generalize run table line = o at hanswer hruns
    cases hruns with
    | exit => cases hanswer
    | inserted => cases hanswer
    | notInserted hinsert hrow =>
        cases hanswer
        rcases Row.limit_or_column_of_parse_eq_error hrow with ⟨e, rfl⟩ | ⟨column, rfl⟩
        · obtain ⟨word, -, -, -, -, rfl⟩ := Row.parse_eq_error_limit_iff.mp hrow
          exact ⟨word.length, (overlong_iff hinsert).mpr hrow, rfl⟩
        · cases hf
    | selected =>
        rw [Table.listing_eq_ok hwritable] at hanswer
        cases hanswer
    | unrecognized =>
        cases hanswer
        cases hf
  · intro h
    rcases h with ⟨digits, hlong, rfl⟩
    exact ⟨run_of_overlong hlong table, rfl⟩

theorem writable_tableAfter (lines : List Text) :
    ∀ row ∈ (tableAfter .empty lines).toList, Numeral.Writable row.id :=
  fun _ hrow => (valid_of_mem_tableAfter hrow).id_writable

/-- No line asks for a verb that the execution does not know. -/
theorem run_ne_unknown (table : Table) (line : Text) (verb : Verb) :
    (run table line).answer ≠ .error (.unknownStatement verb) ∧
      (run table line).answer ≠ .error (.unknownMeta verb) := by
  have hruns := runs_run table line
  generalize run table line = o at hruns ⊢
  cases hruns with
  | exit => simp
  | inserted => simp
  | notInserted _ hrow =>
      rcases Row.limit_or_column_of_parse_eq_error hrow with ⟨e, rfl⟩ | ⟨column, rfl⟩
      · simp
      · simp [Fault.column]
  | selected =>
      cases table.listing with
      | error e => constructor <;> (intro h; cases h)
      | ok output => constructor <;> (intro h; cases h)
  | unrecognized => simp

namespace Shell

/-! ## Lines that end a session -/

theorem stops_of_overlong {line : Text} {digits : Nat} (h : Overlong line digits) (table : Table) :
    Stops table line (.fault (.limit (.reading digits))) := by
  have hblank : line.strip ≠ [] :=
    Command.ne_nil_of_isPrefix Command.head?_insertKeyword h.insertKeyword_isPrefix
  exact .fault hblank (run_of_overlong h table) rfl

theorem stops_fault_iff {lines : List Text} {line : Text} {f : Fault} :
    Stops (tableAfter .empty lines) line (.fault f) ↔
      ∃ digits, Overlong line digits ∧ f = .limit (.reading digits) := by
  constructor
  · intro h
    cases h with
    | fault _ hanswer hf => exact (run_limit_iff (writable_tableAfter lines)).mp ⟨hanswer, hf⟩
  · intro h
    rcases h with ⟨digits, hlong, rfl⟩
    exact stops_of_overlong hlong _

theorem stops_exit_iff {table : Table} {line : Text} :
    Stops table line .exit ↔ line.strip = Command.exitText := by
  constructor
  · intro h
    cases h with
    | exit _ hanswer =>
        have hruns := runs_run table line
        generalize run table line = o at hanswer hruns
        cases hruns with
        | exit hexit => exact hexit
        | inserted => cases hanswer
        | notInserted => cases hanswer
        | selected =>
            cases hlisting : table.listing <;> rw [hlisting] at hanswer <;> cases hanswer
        | unrecognized => cases hanswer
  · intro hexit
    have hblank : line.strip ≠ [] :=
      Command.ne_nil_of_isPrefix Command.head?_exitText (hexit ▸ List.prefix_refl _)
    exact .exit hblank (by rw [(Runs.exit hexit).eq])

/-! ## Whole sessions -/

/-- The line at `k` is overlong, and no line before it is `.exit`. -/
structure BreaksAt (lines : List Text) (k digits : Nat) : Prop where
  overlong : ∃ line, lines[k]? = some line ∧ Overlong line digits
  no_exit : ∀ j < k, ∀ line, lines[j]? = some line → line.strip ≠ Command.exitText

/-- A session that is ended by a line at `k` ends no later than at an overlong
line. -/
theorem Plays.le_of_breaksAt {start : Table} {lines : List Text} {k k' digits : Nat}
    {t : Transcript} (h : Plays start lines k t) (h' : BreaksAt lines k' digits) : k ≤ k' := by
  obtain ⟨line, hline, hlong⟩ := h'.overlong
  apply Nat.le_of_not_lt
  intro hlt
  exact h.goes_on k' hlt line hline _ (stops_of_overlong hlong _)

theorem Plays.ending_of_breaksAt {start : Table} {lines : List Text} {k digits : Nat}
    {t : Transcript} (h : Plays start lines k t) (h' : BreaksAt lines k digits) :
    t.ending = .fault (.limit (.reading digits)) := by
  obtain ⟨line, hline, hlong⟩ := h'.overlong
  exact h.ending_eq_fault_iff.mpr ⟨line, hline, stops_of_overlong hlong _⟩

/-- A session that ends with a fault ends at an overlong line. -/
theorem Plays.breaksAt_of_ending {lines : List Text} {k : Nat} {t : Transcript} {f : Fault}
    (h : Plays .empty lines k t) (hf : t.ending = .fault f) :
    ∃ digits, BreaksAt lines k digits ∧ f = .limit (.reading digits) := by
  obtain ⟨line, hline, hstops⟩ := h.ending_eq_fault_iff.mp hf
  obtain ⟨digits, hlong, hdigits⟩ := stops_fault_iff.mp hstops
  refine ⟨digits, ⟨⟨line, hline, hlong⟩, ?_⟩, hdigits⟩
  intro j hj line' hj' hexit
  exact h.goes_on j hj line' hj' .exit (stops_exit_iff.mpr hexit)

/-- A session that ends before an overlong line, without `.exit`, ends at another. -/
theorem Plays.breaksAt_of_lt {lines : List Text} {k k' digits : Nat} {t : Transcript}
    (h : Plays .empty lines k t) (h' : BreaksAt lines k' digits) (hlt : k < k') :
    ∃ digits', BreaksAt lines k digits' ∧ t.ending = .fault (.limit (.reading digits')) := by
  obtain ⟨line', hline', -⟩ := h'.overlong
  have hlength : k < lines.length := by
    have hk' : k' < lines.length := (List.getElem?_eq_some_iff.mp hline').1
    omega
  have hline : lines[k]? = some lines[k] := List.getElem?_eq_getElem hlength
  have hstops := h.stops _ hline
  cases hending : t.ending with
  | endOfInput =>
      rw [hending] at hstops
      cases hstops
  | exit =>
      rw [hending] at hstops
      exact absurd (stops_exit_iff.mp hstops) (h'.no_exit k hlt _ hline)
  | fault f =>
      obtain ⟨digits', hbreaks, hf⟩ := h.breaksAt_of_ending hending
      subst hf
      exact ⟨digits', hbreaks, rfl⟩

/-- The fault of an overlong line says how long its number is. -/
theorem message_reading (digits : Nat) : (Fault.limit (.reading digits)).message =
    "Exceeds the limit (4300 digits) for integer string conversion: value has ".toList ++
      Numeral.ofNat digits ++
        " digits; use sys.set_int_max_str_digits() to increase the limit".toList := by
  have hlimit : Text.ofString "Exceeds the limit (" ++ Numeral.ofNat Numeral.maxDigits ++
      Text.ofString " digits) for integer string conversion: value has " =
        "Exceeds the limit (4300 digits) for integer string conversion: value has ".toList := by
    rw [Text.ofString_eq, Text.ofString_eq]
    decide +kernel
  rw [Fault.message, Numeral.LimitError.message, hlimit, Text.ofString_eq]

/-- When and how a session breaks down.  It does so exactly if it comes to an
overlong line, and then at the first of them and because of its number; otherwise
it ends in order.  For what can go wrong on the way, an overlong line is the only
one that is neither answered nor rejected on a table made by lines: no line asks
for an unknown verb, a numeral within the limit is read, and a select is always
answered. -/
theorem session_fault_iff (input : Text) :
    ((∃ f, (session input).ending = .fault f) ↔ ∃ k digits, BreaksAt input.lines k digits) ∧
    (∀ k digits, BreaksAt input.lines k digits →
      (∀ j < k, ∀ digits', ¬ BreaksAt input.lines j digits') →
        ∃ f, (session input).ending = .fault f ∧ f = .limit (.reading digits) ∧
          f.message =
            "Exceeds the limit (4300 digits) for integer string conversion: value has ".toList ++
              Numeral.ofNat digits ++
                " digits; use sys.set_int_max_str_digits() to increase the limit".toList) ∧
    ((¬ ∃ k digits, BreaksAt input.lines k digits) →
      (session input).ending.exitCode = 0 ∧
        ((session input).ending = .endOfInput ∨ (session input).ending = .exit)) ∧
    (∀ lines line f, ((run (tableAfter .empty lines) line).answer = .error f ∧
      f.rejection? = none) ↔ ∃ digits, Overlong line digits ∧ f = .limit (.reading digits)) ∧
    (∀ table line verb, (run table line).answer ≠ .error (.unknownStatement verb) ∧
      (run table line).answer ≠ .error (.unknownMeta verb)) ∧
    (∀ word, Numeral.isNumeral word = true → word.length ≤ Numeral.maxDigits →
      Numeral.read word = .ok (Numeral.value word)) ∧
    (∀ lines line, Statement.selectKeyword <+: line.strip →
      ∃ output, (run (tableAfter .empty lines) line).answer = .ok ⟨output, .proceed⟩) := by
  obtain ⟨k, hplays⟩ := plays_interact .empty input.lines
  have hiff : (∃ f, (session input).ending = .fault f) ↔
      ∃ k digits, BreaksAt input.lines k digits := by
    constructor
    · intro hfault
      rcases hfault with ⟨f, hf⟩
      obtain ⟨digits, hbreaks, -⟩ := hplays.breaksAt_of_ending hf
      exact ⟨k, digits, hbreaks⟩
    · intro hoverlong
      rcases hoverlong with ⟨k', digits, hbreaks⟩
      rcases Nat.lt_or_eq_of_le (hplays.le_of_breaksAt hbreaks) with hlt | heq
      · obtain ⟨digits', -, hending⟩ := hplays.breaksAt_of_lt hbreaks hlt
        exact ⟨_, hending⟩
      · subst heq
        exact ⟨_, hplays.ending_of_breaksAt hbreaks⟩
  refine ⟨hiff, ?_, ?_, fun lines _ _ => run_limit_iff (writable_tableAfter lines),
    run_ne_unknown, ?_, ?_⟩
  · intro k' digits hbreaks hfirst
    rcases Nat.lt_or_eq_of_le (hplays.le_of_breaksAt hbreaks) with hlt | heq
    · obtain ⟨digits', hbreaks', -⟩ := hplays.breaksAt_of_lt hbreaks hlt
      exact absurd hbreaks' (hfirst k hlt digits')
    · subst heq
      exact ⟨_, hplays.ending_of_breaksAt hbreaks, rfl, message_reading digits⟩
  · intro hnone
    cases hending : (session input).ending with
    | endOfInput => exact ⟨rfl, .inl rfl⟩
    | exit => exact ⟨rfl, .inr rfl⟩
    | fault f => exact absurd (hiff.mp ⟨f, hending⟩) hnone
  · intro word hnumeral hlength
    exact Numeral.read_eq_ok_iff.mpr ⟨hlength, rfl⟩
  · intro lines line hselect
    exact ⟨_, run_select_tableAfter hselect lines⟩

/-- Zeros count: a number of too many of them is too long, whatever it is worth. -/
theorem overlong_zeros {n : Nat} (h : Numeral.maxDigits < n) :
    Overlong ("insert ".toList ++ List.replicate n '0') n := by
  have hpos : n ≠ 0 := by omega
  have hstrip : Text.strip ("insert ".toList ++ List.replicate n '0') =
      "insert ".toList ++ List.replicate n '0' := by
    refine Text.strip_eq_iff.mpr ⟨⟨?_, ?_⟩, [], [], Text.blank_nil, Text.blank_nil, by simp⟩
    · intro c hc
      have hfirst : 'i' = c := Option.some.inj hc
      subst hfirst
      decide
    · intro c hc
      rw [List.getLast?_append, List.getLast?_replicate, if_neg hpos] at hc
      have hzero : '0' = c := Option.some.inj hc
      subst hzero
      decide
  refine ⟨[' '], List.replicate n '0', [], ?_, by decide, by simp [Text.StartsBlank],
    Numeral.isNumeral_iff.mpr ⟨by simp [hpos], ?_⟩, ?_, List.length_replicate⟩
  · rw [hstrip, Statement.insertKeyword, Text.ofString_eq]
    simp
  · intro c hc
    rw [List.eq_of_mem_replicate hc]
    decide
  · rw [List.length_replicate]
    exact h

theorem lines_select_zeros (n : Nat) :
    Text.lines ("select\n".toList ++ ("insert ".toList ++ List.replicate n '0')) =
      ["select".toList, "insert ".toList ++ List.replicate n '0'] := by
  have hnone : '\n' ∉ "insert ".toList ++ List.replicate n '0' := by simp
  have hcut := Text.lines_append_newline (show '\n' ∉ "select".toList by decide)
    ("insert ".toList ++ List.replicate n '0')
  rw [Text.lines_eq_singleton hnone (by simp)] at hcut
  exact hcut

/-- The first line is answered, and the second ends the session. -/
theorem session_fault_of_zeros : ∃ f,
    (session ("select\n".toList ++ ("insert ".toList ++ List.replicate 4301 '0'))).ending =
      .fault f ∧ f = .limit (.reading 4301) := by
  have hlong : Overlong ("insert ".toList ++ List.replicate 4301 '0') 4301 :=
    overlong_zeros (by decide)
  have hselect : Text.strip "select".toList = "select".toList := by decide
  have hlines := lines_select_zeros 4301
  generalize "insert ".toList ++ List.replicate 4301 '0' = line at hlong hlines ⊢
  obtain ⟨-, hwhich, -⟩ := session_fault_iff ("select\n".toList ++ line)
  rw [hlines] at hwhich
  have hbreaks : BreaksAt ["select".toList, line] 1 4301 := by
    refine ⟨⟨line, rfl, hlong⟩, ?_⟩
    intro j hj line' hline'
    have hzero : j = 0 := by omega
    subst hzero
    have hfirst : "select".toList = line' := Option.some.inj hline'
    subst hfirst
    rw [hselect, Command.exitText, Text.ofString_eq]
    decide
  have hfirst : ∀ j < 1, ∀ digits, ¬ BreaksAt ["select".toList, line] j digits := by
    intro j hj digits hbreaks'
    have hzero : j = 0 := by omega
    subst hzero
    obtain ⟨line', hline', hlong'⟩ := hbreaks'.overlong
    have hfirst : "select".toList = line' := Option.some.inj hline'
    subst hfirst
    have hstart := hlong'.insertKeyword_isPrefix
    rw [hselect, Statement.insertKeyword, Text.ofString_eq] at hstart
    revert hstart
    decide
  obtain ⟨f, hending, hf, -⟩ := hwhich 1 4301 hbreaks hfirst
  exact ⟨f, hending, hf⟩

end Shell

end UserDb
