import Mathlib.Algebra.Group.Int.Defs
import Mathlib.Data.Int.Cast.Basic
import UserDb.Proofs.Restore

/-!
# The rows that lines can store

A table that lines have made holds valid rows only, and there is nothing else to
say of it: every valid row is stored by some line (`stored_iff`).  That a listing
can always be shown is a consequence.  A listing fails exactly if the table has a
number that is too long to be written (`listing_eq_error`), which rows that callers
have added may have, and valid rows have not.

Two limits have to fit each other for this.  Reading counts the characters of the
numeral as it was typed, and writing counts the digits of the number.  They do,
because a number is never written with more characters than it was read from
(`Numeral.length_ofNat_value_le`).

## Main results

* `Row.valid_iff_fits`: what a valid row is, in numbers.
* `stored_iff`: which rows are stored by lines.
* `run_select_iff`: on which tables a select is answered.
* `stored_rows_shown`: both, for the tables that lines make.
-/

namespace UserDb

/-! ## The stored rows -/

/-- A natural number has no sign, so its digits are all that is written of it. -/
theorem Numeral.writable_iff_length_le {n : Int} (h : 0 ≤ n) :
    Writable n ↔ (ofInt n).length ≤ 4300 := by
  obtain ⟨m, rfl⟩ := Int.eq_ofNat_of_zero_le h
  exact Iff.rfl

/-- These are few enough if it is less than the first number that has one too many. -/
theorem Numeral.length_ofInt_le_iff {n : Int} (h : 0 ≤ n) {k : Nat} (hk : 0 < k) :
    (ofInt n).length ≤ k ↔ n < 10 ^ k := by
  obtain ⟨m, rfl⟩ := Int.eq_ofNat_of_zero_le h
  rw [ofInt_natCast, ofNat, Nat.length_toDigits_le_iff (by decide) hk]
  exact_mod_cast Iff.rfl

/-- The bounds of the columns, in numbers. -/
structure Row.Fits (row : Row) : Prop where
  id : 0 ≤ row.id ∧ row.id < 10 ^ 4300
  username : 1 ≤ row.username.length ∧ row.username.length ≤ 32 ∧
    ∀ c ∈ row.username, Text.isBlank c = false
  email : 1 ≤ row.email.length ∧ row.email.length ≤ 255 ∧
    ∀ c ∈ row.email, Text.isBlank c = false

/-- The rows that can be spelled are those within the bounds. -/
theorem Row.valid_iff_fits {row : Row} : row.Valid ↔ row.Fits := by
  have hwritable : 0 ≤ row.id → (Numeral.Writable row.id ↔ row.id < 10 ^ 4300) := fun hid =>
    (Numeral.writable_iff_length_le hid).trans (Numeral.length_ofInt_le_iff hid (by decide))
  constructor
  · intro h
    exact
      { id := ⟨h.id_nonneg, (hwritable h.id_nonneg).mp h.id_writable⟩
        username := ⟨List.length_pos_iff.mpr h.username.1, h.username_length, h.username.2⟩
        email := ⟨List.length_pos_iff.mpr h.email.1, h.email_length, h.email.2⟩ }
  · intro h
    obtain ⟨⟨hid, hbound⟩, ⟨hune, husize, huletters⟩, hene, hesize, heletters⟩ := h
    exact
      { id_nonneg := hid
        id_writable := (hwritable hid).mpr hbound
        username := ⟨List.length_pos_iff.mp hune, huletters⟩
        username_length := husize
        email := ⟨List.length_pos_iff.mp hene, heletters⟩
        email_length := hesize }

/-- The rows stored by lines are the valid ones, and each of them is stored by the
line that is written for it. -/
theorem stored_iff {row : Row} : (∃ lines, row ∈ (tableAfter .empty lines).toList) ↔ row.Valid := by
  constructor
  · intro h
    obtain ⟨lines, hrow⟩ := h
    exact valid_of_mem_tableAfter hrow
  · intro h
    have hvalid : ∀ r ∈ [row], r.Valid := by simpa using h
    have hrows : (tableAfter .empty [row.insertLine]).toList = [row] :=
      toList_tableAfter_insertLines hvalid .empty
    exact ⟨[row.insertLine], by rw [hrows]; exact List.mem_singleton_self row⟩

/-! ## Showing them -/

namespace Table

private theorem mapM_render_eq_error {rows : List Row} {row : Row} (hrow : row ∈ rows)
    (h : ¬ Numeral.Writable row.id) : rows.mapM Row.render = .error .writing := by
  induction rows with
  | nil => cases hrow
  | cons first rest ih =>
      rw [List.mapM_cons]
      by_cases hfirst : Numeral.Writable first.id
      · have hne : row ≠ first := fun heq => h (heq ▸ hfirst)
        rw [Row.render_eq_ok hfirst, ih ((List.mem_cons.mp hrow).resolve_left hne)]
        rfl
      · rw [Row.render_eq_error hfirst]
        rfl

/-- A number that cannot be written is enough to make the listing fail. -/
theorem listing_eq_error {t : Table} {row : Row} (hrow : row ∈ t.toList)
    (h : ¬ Numeral.Writable row.id) : t.listing = .error .writing := by
  rw [listing, mapM_render_eq_error hrow h]
  rfl

end Table

/-- A select is answered exactly if every number of the table can be written. -/
theorem run_select_iff {table : Table} {line : Text}
    (hselect : Statement.selectKeyword <+: line.strip) :
    (∃ reply, (run table line).answer = .ok reply) ↔
      ∀ row ∈ table.toList, Numeral.Writable row.id := by
  constructor
  · intro h row hrow
    obtain ⟨reply, hreply⟩ := h
    by_cases hwritable : Numeral.Writable row.id
    · exact hwritable
    · rw [(Runs.selected hselect).eq, Table.listing_eq_error hrow hwritable] at hreply
      cases hreply
  · intro h
    exact ⟨_, run_select_of_writable hselect h⟩

/-- Which rows lines store, and that all of them can be shown.  They are those within
the bounds of their columns, in any table that any lines make, and with them the number
of every row has few enough digits to be written.  This is what a select needs: it is
answered, with all the rows, on every such table, whether a line asks for it or a
statement. -/
theorem stored_rows_shown :
    (∀ row, (∃ lines, row ∈ (tableAfter .empty lines).toList) ↔ row.Fits) ∧
    (∀ lines, ∀ row ∈ (tableAfter .empty lines).toList,
      (Numeral.ofInt row.id).length ≤ 4300 ∧
      Numeral.write row.id = .ok (Numeral.ofInt row.id) ∧ row.render = .ok row.line) ∧
    (∀ table line, Statement.selectKeyword <+: line.strip →
      ((∃ reply, (run table line).answer = .ok reply) ↔
        ∀ row ∈ table.toList, Numeral.Writable row.id)) ∧
    (∀ lines line, Statement.selectKeyword <+: line.strip →
      (run (tableAfter .empty lines) line).answer =
        .ok ⟨selectOutput (tableAfter .empty lines).toList, .proceed⟩) ∧
    ∀ lines args, (Statement.execute ⟨.select, args⟩ (tableAfter .empty lines)).answer =
      .ok ⟨selectOutput (tableAfter .empty lines).toList, .proceed⟩ := by
  refine ⟨fun row => stored_iff.trans Row.valid_iff_fits, ?_, fun table line => run_select_iff,
    fun lines line hselect => run_select_tableAfter hselect lines, ?_⟩
  · intro lines row hrow
    have hvalid := valid_of_mem_tableAfter hrow
    have hlength := (Numeral.writable_iff_length_le hvalid.id_nonneg).mp hvalid.id_writable
    exact ⟨hlength, Numeral.write_eq_ok_iff.mpr ⟨hvalid.id_writable, rfl⟩,
      Row.render_eq_ok hvalid.id_writable⟩
  · intro lines args
    have hlisting := Table.listing_eq_ok (t := tableAfter .empty lines)
      fun row hrow => (valid_of_mem_tableAfter hrow).id_writable
    show ((tableAfter .empty lines).listing.mapError Fault.limit).map Reply.executed = _
    rw [hlisting]
    rfl

/-- A select with more behind its keyword, after an insert and a line that is refused. -/
theorem stored_rows_shown_bob : Statement.selectKeyword <+: Text.strip "select * ".toList ∧
    (run (tableAfter .empty [" insert 007 bob b@x".toList, "insert -1 al a@x".toList])
      "select * ".toList).answer = .ok ⟨"(7, bob, b@x)\nExecuted.\n".toList, .proceed⟩ := by
  have hselect : Statement.selectKeyword <+: Text.strip "select * ".toList := by
    rw [Statement.selectKeyword, Text.ofString_eq]
    decide
  obtain ⟨-, -, -, hshown, -⟩ := stored_rows_shown
  have hrows :
      (tableAfter .empty [" insert 007 bob b@x".toList, "insert -1 al a@x".toList]).toList =
        [⟨7, "bob".toList, "b@x".toList⟩] := by
    decide +kernel
  refine ⟨hselect, ?_⟩
  rw [hshown _ _ hselect, hrows, selectOutput, Reply.executedLine, Text.ofString_eq]
  rfl

end UserDb
