import UserDb.Proofs.Classification

/-!
# Which command a line asks for

A line is sorted in two steps: by its first character, which is the sigil or not, and then,
on each side, by the texts that are known there.  The same can be said in one step and without
the sigil.  `Asks` is the relation between a stripped line and what comes of it, with one
constructor for each of the four cases.  Every line is of one of these (`asks_parse`), and in
each the outcome is that of the flat rule, which tries `.exit` and leaves all else to the
statements (`Asks.eq_flat`).  So the two ways of sorting agree, although they reject a line
that starts with the sigil in different places, and a case is all that there is to an outcome
(`Asks.eq_iff`).

## Main results

* `asks_parse`, `Asks.eq_iff`: every line is of one of the four cases, and the outcome is what
  the case says.
* `Command.parse_eq_flat`: the sigil makes no difference.
* `Command.parse_classifies`: the four cases in terms of the line, with what the argument of an
  insert is, and the blanks around the line.
-/

namespace UserDb

/-! ## The four cases as a relation -/

/-- What comes of a stripped line: a command, or the rejection of the line. -/
inductive Asks (s : Text) : Except Rejection Command → Prop
  | exit : s = Command.exitText → Asks s (.ok .exit)
  | insert {args : Text} : s = Statement.insertKeyword ++ args →
      Asks s (.ok (.statement ⟨.insert, args⟩))
  | select : Statement.selectKeyword <+: s → Asks s (.ok (.statement ⟨.select, []⟩))
  | unrecognized : s ≠ Command.exitText → ¬ Statement.insertKeyword <+: s →
      ¬ Statement.selectKeyword <+: s → Asks s (.error (.unrecognized s))

/-- Every line is of one of the cases. -/
theorem asks_parse (line : Text) : Asks line.strip (Command.parse line) := by
  rcases line_cases line with hexit | ⟨args, hinsert⟩ | hselect | hneither
  · rw [Command.parse_of_exitText hexit]
    exact .exit hexit
  · rw [Command.parse_of_insertKeyword hinsert]
    exact .insert hinsert
  · rw [Command.parse_of_selectKeyword hselect]
    exact .select hselect
  · rw [Command.parse_of_neither hneither]
    exact .unrecognized hneither.ne_exitText hneither.not_insert hneither.not_select

theorem asks_of_parse {line : Text} {answer : Except Rejection Command}
    (h : Command.parse line = answer) : Asks line.strip answer := h ▸ asks_parse line

/-! ## Without the sigil -/

namespace Command

/-- The flat rule: `.exit` ends the session, and whatever else a line is, it is read as a
statement. -/
def flat (s : Text) : Except Rejection Command :=
  if s = exitText then .ok .exit else (Statement.parse s).map .statement

theorem not_selectKeyword_of_exitText {text : Text} (h : text = exitText) :
    ¬ Statement.selectKeyword <+: text := by
  intro hselect
  have hhead := head?_of_isPrefix head?_selectKeyword hselect
  rw [h, head?_exitText] at hhead
  exact absurd (Option.some.inj hhead) (by decide)

end Command

/-- What comes of a line in each of the cases is what the flat rule gives. -/
theorem Asks.eq_flat {s : Text} {answer : Except Rejection Command} (h : Asks s answer) :
    answer = Command.flat s := by
  cases h with
  | exit hexit => exact (if_pos hexit).symm
  | insert hinsert =>
      have hne : s ≠ Command.exitText := fun hexit =>
        Command.not_insertKeyword_of_exitText hexit ⟨_, hinsert.symm⟩
      rw [Command.flat, if_neg hne, Statement.parse_eq_ok_insert_iff.mpr hinsert]
      rfl
  | select hselect =>
      have hne : s ≠ Command.exitText := fun hexit =>
        Command.not_selectKeyword_of_exitText hexit hselect
      rw [Command.flat, if_neg hne, Statement.parse_of_selectKeyword hselect]
      rfl
  | unrecognized hne hinsert hselect =>
      rw [Command.flat, if_neg hne, Statement.parse_of_neither hinsert hselect]
      rfl

/-- So no line is of two cases with different outcomes. -/
theorem Asks.eq_iff {s : Text} {answer answer' : Except Rejection Command} (h : Asks s answer) :
    answer = answer' ↔ Asks s answer' := by
  constructor
  · rintro rfl
    exact h
  · intro h'
    rw [h.eq_flat, h'.eq_flat]

namespace Command

/-- Looking at the first character first makes no difference. -/
theorem parse_eq_flat (line : Text) : parse line = flat line.strip := (asks_parse line).eq_flat

/-! ## Blanks -/

/-- Nor do blanks around the line. -/
theorem parse_append {g h : Text} (hg : g.Blank) (hh : h.Blank) (line : Text) :
    parse (g ++ line ++ h) = parse line := by
  rw [parse_eq_flat, parse_eq_flat, Text.strip_append hg hh]

/-- The argument of an insert does not end with a blank, since the line does not. -/
theorem isBlank_getLast?_args {line args : Text}
    (h : parse line = .ok (.statement ⟨.insert, args⟩)) :
    ∀ c ∈ args.getLast?, Text.isBlank c = false := by
  intro c hc
  have hstripped : line.strip.IsStripped := (Text.strip_eq_iff.mp rfl).1
  cases asks_of_parse h with
  | insert hinsert =>
      rw [hinsert] at hstripped
      apply hstripped.2
      rw [List.getLast?_append, Option.mem_def.mp hc]
      rfl

/-! ## The cases apart -/

/-- The outcomes of a stripped line, each exactly when the line is of its case. -/
structure Classified (s : Text) (answer : Except Rejection Command) : Prop where
  exit : answer = .ok .exit ↔ s = ".exit".toList
  /-- The line is the keyword with the argument behind it, so it can be put together again. -/
  insert : ∀ args, answer = .ok (.statement ⟨.insert, args⟩) ↔ s = "insert".toList ++ args
  select : ∀ args, answer = .ok (.statement ⟨.select, args⟩) ↔ args = [] ∧ "select".toList <+: s
  unrecognized : ∀ why, answer = .error why ↔ why = .unrecognized s ∧
    s ≠ ".exit".toList ∧ ¬ "insert".toList <+: s ∧ ¬ "select".toList <+: s
  /-- There is no other outcome. -/
  exhaustive : answer = .ok .exit ∨ (∃ args, answer = .ok (.statement ⟨.insert, args⟩)) ∨
    answer = .ok (.statement ⟨.select, []⟩) ∨ answer = .error (.unrecognized s)
  /-- No line is of two of the cases. -/
  disjoint : (s = ".exit".toList → ¬ "insert".toList <+: s ∧ ¬ "select".toList <+: s) ∧
    ("insert".toList <+: s → ¬ "select".toList <+: s)

theorem classified_of_asks {s : Text} {answer : Except Rejection Command} (h : Asks s answer) :
    Classified s answer := by
  refine
    { exit := ?_
      insert := ?_
      select := ?_
      unrecognized := ?_
      exhaustive := ?_
      disjoint := ?_ }
  · rw [h.eq_iff, ← exitText_eq]
    constructor
    · intro hasks
      cases hasks with
      | exit hexit => exact hexit
    · exact .exit
  · intro args
    rw [h.eq_iff, ← Statement.insertKeyword_eq]
    constructor
    · intro hasks
      cases hasks with
      | insert hinsert => exact hinsert
    · exact .insert
  · intro args
    rw [h.eq_iff, ← Statement.selectKeyword_eq]
    constructor
    · intro hasks
      cases hasks with
      | select hselect => exact ⟨rfl, hselect⟩
    · rintro ⟨rfl, hselect⟩
      exact .select hselect
  · intro why
    rw [h.eq_iff, ← exitText_eq, ← Statement.insertKeyword_eq, ← Statement.selectKeyword_eq]
    constructor
    · intro hasks
      cases hasks with
      | unrecognized hne hinsert hselect => exact ⟨rfl, hne, hinsert, hselect⟩
    · rintro ⟨rfl, hne, hinsert, hselect⟩
      exact .unrecognized hne hinsert hselect
  · cases h with
    | exit _ => exact .inl rfl
    | insert _ => exact .inr (.inl ⟨_, rfl⟩)
    | select _ => exact .inr (.inr (.inl rfl))
    | unrecognized _ _ _ => exact .inr (.inr (.inr rfl))
  · rw [← exitText_eq, ← Statement.insertKeyword_eq, ← Statement.selectKeyword_eq]
    refine ⟨?_, ?_⟩
    · intro hexit
      exact ⟨not_insertKeyword_of_exitText hexit, not_selectKeyword_of_exitText hexit⟩
    · intro hinsert hselect
      exact not_insertKeyword_of_selectKeyword hselect hinsert

/-- A line is sorted by what is left of it without the blanks at its ends: it is `.exit`, it
is an insert of what follows the keyword, up to its last character that is no blank, it is the
select, or it is rejected as it stands, and it is one of these only.  The first character need
not be looked at for this, and blanks around the line make no difference. -/
theorem parse_classifies (line : Text) {g h : Text} (hg : g.Blank) (hh : h.Blank) :
    Classified line.strip (parse line) ∧
    (∀ args, parse line = .ok (.statement ⟨.insert, args⟩) →
      ∀ c ∈ args.getLast?, Text.isBlank c = false) ∧
    parse line = flat line.strip ∧
    parse (g ++ line ++ h) = parse line :=
  ⟨classified_of_asks (asks_parse line), fun _ hinsert => isBlank_getLast?_args hinsert,
    parse_eq_flat line, parse_append hg hh line⟩

/-- The sigil in front of a keyword makes the line one that is rejected, and what it is rejected
with does not show the blanks that were around it. -/
theorem parse_classifies_sigil : Text.Blank "\u3000\t".toList ∧ Text.Blank "\r\n".toList ∧
    parse ("\u3000\t".toList ++ ".insert 7 bob b@x".toList ++ "\r\n".toList) =
      .error (.unrecognized ".insert 7 bob b@x".toList) ∧
    parse "insert7 bob b@x ".toList = .ok (.statement ⟨.insert, "7 bob b@x".toList⟩) := by
  have hg : Text.Blank "\u3000\t".toList := by decide
  have hh : Text.Blank "\r\n".toList := by decide
  obtain ⟨hclassified, -, -, hpadded⟩ := parse_classifies ".insert 7 bob b@x".toList hg hh
  obtain ⟨hclassified', -⟩ := parse_classifies "insert7 bob b@x ".toList hg hh
  have hrejected : parse ".insert 7 bob b@x".toList =
      .error (.unrecognized ".insert 7 bob b@x".toList) :=
    (hclassified.unrecognized _).mpr (by decide)
  have hinsert : parse "insert7 bob b@x ".toList =
      .ok (.statement ⟨.insert, "7 bob b@x".toList⟩) := (hclassified'.insert _).mpr (by decide)
  exact ⟨hg, hh, hpadded.trans hrejected, hinsert⟩

end Command

end UserDb
