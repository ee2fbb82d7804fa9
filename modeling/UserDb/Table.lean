import UserDb.Row.Basic

/-!
# The table

A table keeps rows in the order in which they were added, repetitions included.
Nothing is ever taken out. Everything about a table is said through its list of
rows, `toList`, for which each operation has one equation.

A list of rows is a value of its own: once taken it does not follow the table.
`iterate` goes through such a list, so a visit may add rows without ever meeting
the ones it added (`iterate_eq`).
-/

namespace UserDb

/-- Rows in the order of their addition. -/
structure Table where
  rows : Array Row
deriving DecidableEq, Repr

namespace Table

/-- The table without rows. -/
def empty : Table := ⟨#[]⟩

/-- The rows of the table, the oldest first. -/
def toList (t : Table) : List Row := t.rows.toList

/-- The number of rows. -/
def size (t : Table) : Nat := t.rows.size

/-- The row added last. -/
def last? (t : Table) : Option Row := t.rows.back?

/-- Puts the row behind the others. -/
def add (t : Table) (row : Row) : Table := ⟨t.rows.push row⟩

@[simp] theorem toList_empty : empty.toList = [] := rfl

@[simp] theorem toList_add (t : Table) (row : Row) : (t.add row).toList = t.toList ++ [row] := by
  simp [add, toList]

@[simp] theorem length_toList (t : Table) : t.toList.length = t.size := rfl

@[simp] theorem getLast?_toList (t : Table) : t.toList.getLast? = t.last? := by
  simp [toList, last?]

/-- A table is determined by its rows. -/
theorem toList_inj {s t : Table} : s.toList = t.toList ↔ s = t := by
  cases s; cases t; simp [toList, Array.toList_inj]

/-! ## Going through the rows -/

/-- Lets `visit` act on the table once for each row that the table has now, in
order, and gives the rows that were visited. -/
def iterate (visit : Table → Row → Table) (t : Table) : List Row × Table :=
  let (seen, table) := t.toList.foldl
    (fun (seen, table) row => (seen.push row, visit table row)) ((#[] : Array Row), t)
  (seen.toList, table)

private theorem foldl_push (visit : Table → Row → Table) (rows : List Row) (seen : Array Row)
    (table : Table) :
    rows.foldl (fun (seen, table) row => (seen.push row, visit table row)) (seen, table) =
      (seen ++ rows, rows.foldl visit table) := by
  induction rows generalizing seen table with
  | nil => simp
  | cons row rows ih => simp [ih]

/-- The rows that are visited are those that the table has at the start, whatever
the visits add. -/
theorem iterate_eq (visit : Table → Row → Table) (t : Table) :
    t.iterate visit = (t.toList, t.toList.foldl visit t) := by
  simp [iterate, foldl_push]

/-- Adds each row again while going through the rows. -/
def duplicate (t : Table) : List Row × Table := t.iterate add

/-! ## Showing the rows -/

/-- The rows as text, a line each. -/
def listing (t : Table) : Except Numeral.LimitError Text :=
  (t.toList.mapM Row.render).map fun lines => lines.flatMap (· ++ ['\n'])

private theorem mapM_render {rows : List Row}
    (h : ∀ row ∈ rows, Numeral.Writable row.id) :
    rows.mapM Row.render = .ok (rows.map Row.line) := by
  induction rows with
  | nil => rfl
  | cons row rows ih =>
      rw [List.mapM_cons, Row.render_eq_ok (h row (by simp)), ih fun r hr => h r (by simp [hr])]
      rfl

/-- If every number can be written, the listing is every row's line. -/
theorem listing_eq_ok {t : Table} (h : ∀ row ∈ t.toList, Numeral.Writable row.id) :
    t.listing = .ok (t.toList.flatMap fun row => row.line ++ ['\n']) := by
  rw [listing, mapM_render h, Except.map, List.flatMap_map]

end Table

end UserDb
