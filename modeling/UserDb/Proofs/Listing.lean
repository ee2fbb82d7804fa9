import UserDb.Proofs.History

/-!
# Reading a listing back

A listing escapes nothing: the fields of a row stand in it as they are, between
parentheses, commas and spaces that the fields may hold themselves.  It can be
read back all the same, because no field of a row that comes from a line holds a
blank.  So every line feed ends a row's line, and of the spaces in such a line
there are exactly the two that stand between its fields, each after a comma.

Commas alone show nothing, since a field may end in one; what is cut at is a comma
and a space (`cutFields`).

## Main results

* `splitOn_selectOutput`: the pieces of a listing between its line feeds.
* `showsRow_line`: the pieces of a row's line.
* `selectOutput_inj`: the rows, from the listing.
* `select_determines_rows`: the same for tables made by lines.
-/

namespace UserDb

/-! ## Cutting at a comma and a space -/

namespace Text

/-- The pieces of `t` between the places where a comma is followed by a space. -/
def cutFields : Text → List Text
  | [] => [[]]
  | ',' :: ' ' :: t => [] :: cutFields t
  | c :: t => (cutFields t).modifyHead (c :: ·)

/-- A character that is not followed by a space is part of a piece. -/
theorem cutFields_cons {t : Text} (h : t.head? ≠ some ' ') (c : Char) :
    cutFields (c :: t) = (cutFields t).modifyHead (c :: ·) := by
  rw [cutFields]
  intro t' _ ht
  apply h
  rw [ht]
  rfl

/-- A text without spaces is its own only piece. -/
theorem cutFields_of_not_mem {t : Text} (h : ' ' ∉ t) : cutFields t = [t] := by
  induction t with
  | nil => rfl
  | cons c t ih =>
      have hhead : t.head? ≠ some ' ' := by
        intro hspace
        exact h (List.mem_cons_of_mem c (List.mem_of_mem_head? hspace))
      rw [cutFields_cons hhead, ih fun hmem => h (List.mem_cons_of_mem c hmem)]
      rfl

/-- A text without spaces is the first piece before a comma and a space, whatever
commas it holds. -/
theorem cutFields_append {s : Text} (h : ' ' ∉ s) (t : Text) :
    cutFields (s ++ ',' :: ' ' :: t) = s :: cutFields t := by
  induction s with
  | nil => rfl
  | cons c s ih =>
      have hs : ' ' ∉ s := fun hmem => h (List.mem_cons_of_mem c hmem)
      have hhead : (s ++ ',' :: ' ' :: t).head? ≠ some ' ' := by
        cases s with
        | nil => simp
        | cons d s =>
            intro hspace
            have hd : d = ' ' := by simpa using hspace
            exact hs (by simp [hd])
      rw [List.cons_append, cutFields_cons hhead, ih hs]
      rfl

/-- A comma at the end of a field is part of the field. -/
example : cutFields "7, a,, (b".toList = ["7".toList, "a,".toList, "(b".toList] := by decide

/-- The first separator of a text is where a part without separators ends. -/
theorem append_cons_cases {s before after rest : Text} {c : Char} (h : c ∉ s)
    (heq : s ++ c :: rest = before ++ c :: after) :
    before = s ∧ after = rest ∨ ∃ middle, before = s ++ c :: middle ∧
      rest = middle ++ c :: after := by
  rcases List.append_eq_append_iff.mp heq with ⟨middle, rfl, hrest⟩ | ⟨middle, rfl, hafter⟩
  · cases middle with
    | nil => exact .inl ⟨List.append_nil s, (List.cons.inj hrest).2.symm⟩
    | cons d middle =>
        obtain ⟨rfl, rfl⟩ := List.cons.inj hrest
        exact .inr ⟨middle, rfl, rfl⟩
  · cases middle with
    | nil => exact .inl ⟨(List.append_nil before).symm, (List.cons.inj hafter).2⟩
    | cons d middle =>
        obtain ⟨rfl, -⟩ := List.cons.inj hafter
        exact absurd (by simp) h

end Text

/-! ## The line of a row -/

namespace Numeral

theorem isDigit_of_mem_ofNat {n : Nat} {c : Char} (h : c ∈ ofNat n) : c.isDigit = true :=
  (isNumeral_iff.mp (isNumeral_ofNat n)).2 c h

/-- Different integers are written differently: no digit is a minus sign. -/
theorem ofInt_inj {m n : Int} (h : ofInt m = ofInt n) : m = n := by
  have hminus : ∀ (a b : Nat), ofNat a ≠ '-' :: ofNat b := by
    intro a b heq
    have hdigit := isDigit_of_mem_ofNat (show '-' ∈ ofNat a by simp [heq])
    exact absurd hdigit (by decide)
  cases m with
  | ofNat a =>
      cases n with
      | ofNat b => rw [ofNat_inj.mp h]
      | negSucc b => exact absurd h (hminus a (b + 1))
  | negSucc a =>
      cases n with
      | ofNat b => exact absurd h.symm (hminus b (a + 1))
      | negSucc b =>
          have hab := ofNat_inj.mp (List.cons.inj h).2
          rw [Nat.succ.inj hab]

end Numeral

namespace Row

/-- The texts of the row's fields, in order. -/
def fields (row : Row) : List Text := [Numeral.ofInt row.id, row.username, row.email]

/-- Fields show their row. -/
theorem fields_inj {row row' : Row} (h : row.fields = row'.fields) : row = row' := by
  cases row
  cases row'
  simp only [fields, List.cons.injEq, and_true] at h
  rcases h with ⟨hid, rfl, rfl⟩
  rw [Numeral.ofInt_inj hid]

/-- No blank is in any field of a valid row. -/
theorem Valid.not_blank {row : Row} (h : row.Valid) {text : Text} (htext : text ∈ row.fields) :
    ∀ c ∈ text, Text.isBlank c = false := by
  simp only [fields, List.mem_cons, List.not_mem_nil, or_false] at htext
  rcases htext with rfl | rfl | rfl
  · intro c hc
    obtain ⟨n, hn⟩ := Int.eq_ofNat_of_zero_le h.id_nonneg
    rw [hn] at hc
    exact Text.isBlank_eq_false_of_isDigit (Numeral.isDigit_of_mem_ofNat hc)
  · exact h.username.2
  · exact h.email.2

/-- So a separator that is a blank is in none of them. -/
theorem Valid.not_mem_fields {row : Row} (h : row.Valid) {c : Char} (hc : Text.isBlank c = true) :
    c ∉ Numeral.ofInt row.id ∧ c ∉ row.username ∧ c ∉ row.email := by
  have hnone : ∀ text ∈ row.fields, c ∉ text := by
    intro text htext hmem
    have hblank := h.not_blank htext c hmem
    rw [hc] at hblank
    cases hblank
  simpa only [fields, List.forall_mem_cons, List.not_mem_nil, false_implies, implies_true,
    and_true] using hnone

/-- The text between the parentheses of a row's line. -/
def inner (line : Text) : Text := (line.drop 1).dropLast

theorem inner_line (row : Row) : inner row.line =
    Numeral.ofInt row.id ++ ',' :: ' ' :: (row.username ++ ',' :: ' ' :: row.email) := by
  have hline : row.line = '(' :: (Numeral.ofInt row.id ++
      ',' :: ' ' :: (row.username ++ ',' :: ' ' :: row.email) ++ [')']) := by
    simp only [line, List.append_assoc, List.cons_append, List.nil_append]
  rw [hline, inner, List.drop_succ_cons, List.drop_zero, List.dropLast_concat]

/-- The line of a valid row has no line feed. -/
theorem newline_not_mem_line {row : Row} (h : row.Valid) : '\n' ∉ row.line := by
  obtain ⟨hid, husername, hemail⟩ := h.not_mem_fields (show Text.isBlank '\n' = true by decide)
  simp [line, hid, husername, hemail]

/-- Cut at commas with spaces, the text between the parentheses gives the fields,
whatever commas and parentheses they hold. -/
theorem cutFields_inner {row : Row} (h : row.Valid) :
    Text.cutFields (inner row.line) = row.fields := by
  obtain ⟨hid, husername, hemail⟩ := h.not_mem_fields (show Text.isBlank ' ' = true by decide)
  rw [inner_line, Text.cutFields_append hid, Text.cutFields_append husername,
    Text.cutFields_of_not_mem hemail, fields]

theorem count_inner {row : Row} (h : row.Valid) : (inner row.line).count ' ' = 2 := by
  obtain ⟨hid, husername, hemail⟩ := h.not_mem_fields (show Text.isBlank ' ' = true by decide)
  simp [inner_line, List.count_append, List.count_eq_zero.mpr hid,
    List.count_eq_zero.mpr husername, List.count_eq_zero.mpr hemail]

/-- Every space between the parentheses comes after a comma. -/
theorem comma_before_space {row : Row} (h : row.Valid) {before after : Text}
    (hsplit : inner row.line = before ++ ' ' :: after) : before.getLast? = some ',' := by
  obtain ⟨hid, husername, hemail⟩ := h.not_mem_fields (show Text.isBlank ' ' = true by decide)
  have hfirst : ' ' ∉ Numeral.ofInt row.id ++ [','] := by simp [hid]
  have hsecond : ' ' ∉ row.username ++ [','] := by simp [husername]
  have hinner : inner row.line = (Numeral.ofInt row.id ++ [',']) ++
      ' ' :: ((row.username ++ [',']) ++ ' ' :: row.email) := by
    simp only [inner_line, List.append_assoc, List.cons_append, List.nil_append]
  rw [hinner] at hsplit
  rcases Text.append_cons_cases hfirst hsplit with ⟨rfl, -⟩ | ⟨middle, rfl, hrest⟩
  · simp
  · rcases Text.append_cons_cases hsecond hrest with ⟨rfl, -⟩ | ⟨last, -, hlast⟩
    · rw [← List.cons_append, ← List.append_assoc, List.getLast?_concat]
    · exact absurd (by simp [hlast]) hemail

end Row

/-! ## Whole listings -/

/-- Cut at its line feeds, the output has a piece for each row, the closing line
and an empty rest. -/
theorem splitOn_selectOutput {rows : List Row} (h : ∀ row ∈ rows, row.Valid) :
    (selectOutput rows).splitOn '\n' =
      rows.map Row.line ++ ["Executed.".toList, []] := by
  induction rows with
  | nil =>
      rw [selectOutput, Reply.executedLine, Text.ofString_eq]
      decide
  | cons row rows ih =>
      have hline : '\n' ∉ row.line := Row.newline_not_mem_line (h row (by simp))
      rw [selectOutput_cons, List.splitOn_append_cons_self_of_not_mem hline,
        ih fun row' hrow' => h row' (by simp [hrow'])]
      rfl

/-- What a piece of the output shows of its row: the text between its parentheses
has two spaces, each after a comma, and the pieces between them are the fields. -/
structure ShowsRow (piece : Text) (row : Row) : Prop where
  count_space : (Row.inner piece).count ' ' = 2
  comma : ∀ before after, Row.inner piece = before ++ ' ' :: after → before.getLast? = some ','
  fields : Text.cutFields (Row.inner piece) = [Numeral.ofInt row.id, row.username, row.email]

theorem showsRow_line {row : Row} (h : row.Valid) : ShowsRow row.line row :=
  { count_space := Row.count_inner h
    comma := fun _ _ => Row.comma_before_space h
    fields := Row.cutFields_inner h }

/-- The output shows the rows. -/
theorem selectOutput_inj {rows rows' : List Row} (h : ∀ row ∈ rows, row.Valid)
    (h' : ∀ row ∈ rows', row.Valid) (houtput : selectOutput rows = selectOutput rows') :
    rows = rows' := by
  have hcut := congrArg (List.splitOn '\n') houtput
  rw [splitOn_selectOutput h, splitOn_selectOutput h', List.append_cancel_right_eq] at hcut
  have hfields : ∀ rows : List Row, (∀ row ∈ rows, row.Valid) →
      (rows.map Row.line).map (fun piece => Text.cutFields (Row.inner piece)) =
        rows.map Row.fields := by
    intro rows hvalid
    rw [List.map_map]
    exact List.map_congr_left fun row hrow => Row.cutFields_inner (hvalid row hrow)
  have hmap := congrArg (List.map fun piece => Text.cutFields (Row.inner piece)) hcut
  rw [hfields rows h, hfields rows' h'] at hmap
  exact (List.map_inj_right fun _ _ => Row.fields_inj).mp hmap

/-- A select on a table made by lines shows everything about the table.  Its output
ends with the closing line and is one line for each row before it, which shows the
number, the name and the address; so tables that give the same output have the same
rows. -/
theorem select_determines_rows (lines lines' : List Text) :
    ∃ output output' : Text,
      (run (tableAfter .empty lines) "select".toList).answer = .ok ⟨output, .proceed⟩ ∧
      (run (tableAfter .empty lines') "select".toList).answer = .ok ⟨output', .proceed⟩ ∧
      (output = output' ↔
        (tableAfter .empty lines).toList = (tableAfter .empty lines').toList) ∧
      output.splitOn '\n' =
        (tableAfter .empty lines).toList.map Row.line ++ ["Executed.".toList, []] ∧
      ∀ row ∈ (tableAfter .empty lines).toList, ShowsRow row.line row := by
  have hselect : Statement.selectKeyword <+: Text.strip "select".toList := by
    rw [Statement.selectKeyword, Text.ofString_eq]
    decide
  have hvalid : ∀ lines, ∀ row ∈ (tableAfter .empty lines).toList, row.Valid :=
    fun _ _ => valid_of_mem_tableAfter
  refine ⟨_, _, run_select_tableAfter hselect lines, run_select_tableAfter hselect lines',
    ⟨selectOutput_inj (hvalid lines) (hvalid lines'), congrArg selectOutput⟩,
    splitOn_selectOutput (hvalid lines), fun row hrow => showsRow_line (hvalid lines row hrow)⟩

end UserDb
