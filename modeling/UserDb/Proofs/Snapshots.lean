import Mathlib.Algebra.Group.Nat.Defs
import UserDb.Proofs.Effects

/-!
# Listings do not follow the table

A listing is a list of rows, and stays what it was when it was taken.  The table may
grow or be replaced, and a listing that is kept under a name is still the one that the
name shows, as long as the name is not taken again (`rows_after`).  As the table itself
only grows, an earlier listing of it is always the beginning of a later one
(`rows_isPrefix_after`).

Going through a table is going through a listing of it, taken at the start.  So a visit
may add rows without meeting them, and one that adds each row again comes to an end, with
every row twice (`toList_duplicate`).  Doing this over and over doubles the table each
time (`toList_after_duplicates`).

## Main results

* `rows_after`, `rows_isPrefix_after`: kept listings and tables, over many steps.
* `toList_after_duplicates`: the table after repeated doubling.
* `snapshots_isolated`: what the listings of a session show, by the steps at which they
  are taken and looked at.
-/

namespace UserDb

/-! ## Adding rows again -/

/-- The rows that are met are those of the start, and they are all added behind. -/
theorem Table.toList_duplicate (t : Table) :
    t.duplicate.1 = t.toList ∧ t.duplicate.2.toList = t.toList ++ t.toList := by
  rw [duplicate, iterate_eq]
  exact ⟨rfl, Session.toList_foldl_add t.toList t⟩

namespace Session

/-- Each repetition doubles what is there. -/
theorem toList_after_duplicates (s : Session) (k : Nat) :
    (s.after (List.replicate k .duplicate)).table.toList =
      (List.replicate (2 ^ k) s.table.toList).flatten := by
  induction k with
  | zero => simp
  | succ k ih =>
      rw [List.replicate_succ', after_append]
      calc
        ((s.after (List.replicate k .duplicate)).after [.duplicate]).table.toList =
            (s.after (List.replicate k .duplicate)).table.toList ++
              (s.after (List.replicate k .duplicate)).table.toList :=
          (Table.toList_duplicate _).2
        _ = (List.replicate (2 ^ k) s.table.toList ++
              List.replicate (2 ^ k) s.table.toList).flatten := by
          rw [ih, List.flatten_append]
        _ = (List.replicate (2 ^ (k + 1)) s.table.toList).flatten := by
          rw [List.replicate_append_replicate, Nat.pow_succ, Nat.mul_two]

/-! ## Kept listings -/

/-- A step leaves alone what is kept under a name, unless it takes the name. -/
theorem rows_step (s : Session) {step : Step} {name : Text} (h : step ≠ .snapshot name) :
    (s.step step).session.rows name = s.rows name := by
  cases step with
  | snapshot other =>
      have hne : name ≠ other := fun heq => h (heq ▸ rfl)
      exact (rows_keep s other name).trans (if_neg hne)
  | _ => rfl

theorem rows_after (s : Session) {steps : List Step} {name : Text}
    (h : ∀ step ∈ steps, step ≠ .snapshot name) : (s.after steps).rows name = s.rows name := by
  induction steps generalizing s with
  | nil => rfl
  | cons step rest ih =>
      rw [after_cons, ih _ fun step' hstep' => h step' (by simp [hstep']),
        rows_step s (h step (by simp))]

/-- A name shows what the table had when it was taken last. -/
theorem rows_after_snapshot (s : Session) {between : List Step} {name : Text}
    (h : ∀ step ∈ between, step ≠ .snapshot name) :
    (s.after (.snapshot name :: between)).rows name = s.table.toList := by
  rw [after_cons, rows_after _ h]
  exact (rows_keep s name name).trans (if_pos rfl)

/-- The rows that a table has are the first that it has later. -/
theorem rows_isPrefix_after (s : Session) {steps : List Step}
    (h : ∀ step ∈ steps, step ≠ .reset) :
    s.table.toList <+: (s.after steps).table.toList := by
  induction steps generalizing s with
  | nil => exact List.prefix_refl _
  | cons step rest ih =>
      have hrest := ih (s.step step).session fun step' hstep' => h step' (by simp [hstep'])
      exact (rows_isPrefix_step s (h step (by simp))).trans hrest

/-! ## Steps by their positions -/

variable (s : Session) (steps : List Step)

/-- The rows of the table before the step at a position. -/
def rowsAt (i : Nat) : List Row := (s.after (steps.take i)).table.toList

/-- What the step at a position answers. -/
def answerAt (i : Nat) : Option (Except Fault Answer) := (s.play steps)[i]?.map Report.answer

theorem answerAt_eq {i : Nat} {step : Step} (h : steps[i]? = some step) :
    s.answerAt steps i = some ((s.after (steps.take i)).step step).answer := by
  rw [answerAt, play_getElem?, h]
  rfl

/-- The steps from one position up to another. -/
theorem after_take_of_le {i j : Nat} (h : i ≤ j) : s.after (steps.take j) =
    (s.after (steps.take i)).after ((steps.drop i).take (j - i)) := by
  rw [← after_append, ← List.take_add, Nat.add_sub_cancel' h]

theorem exists_of_mem_between {i j : Nat} (h : i ≤ j) {step : Step}
    (hstep : step ∈ (steps.drop i).take (j - i)) :
    ∃ k, i ≤ k ∧ k < j ∧ steps[k]? = some step := by
  obtain ⟨n, hn⟩ := List.mem_iff_getElem?.mp hstep
  rw [List.getElem?_take, List.getElem?_drop] at hn
  split at hn
  · next hlt => exact ⟨i + n, by omega, by omega, hn⟩
  · cases hn

/-- What the listings of a session show.  Looking at a name shows what the table had when
the name was taken, whatever has happened since, unless the name was taken again.  Until
the table is replaced, a listing is the beginning of every later one.  Going through the
table meets the rows that it has at the start, each once and in order, whatever each visit
does to it.  If each visit adds its row again, that leaves the rows twice, and to repeat
it `k` times leaves them `2 ^ k` times. -/
theorem snapshots_isolated :
    (∀ i j name, i < j → steps[i]? = some (.snapshot name) → steps[j]? = some (.view name) →
      (∀ k, i < k → k < j → steps[k]? ≠ some (.snapshot name)) →
        s.answerAt steps j = some (.ok (.rows (s.rowsAt steps i)))) ∧
    (∀ i j, i ≤ j → (∀ k, i ≤ k → k < j → steps[k]? ≠ some .reset) →
      s.rowsAt steps i <+: s.rowsAt steps j) ∧
    (∀ i, steps[i]? = some .list ∨ steps[i]? = some .iterate →
      s.answerAt steps i = some (.ok (.rows (s.rowsAt steps i)))) ∧
    (∀ visit, (s.table.iterate visit).1 = s.table.toList) ∧
    (s.step .duplicate).answer = .ok (.rows s.table.toList) ∧
    (s.step .duplicate).session.table.toList = s.table.toList ++ s.table.toList ∧
    ∀ k, (s.after (List.replicate k .duplicate)).table.toList =
        (List.replicate (2 ^ k) s.table.toList).flatten ∧
      (s.after (List.replicate k .duplicate)).table.size = s.table.size * 2 ^ k := by
  have hduplicate := s.table.toList_duplicate
  refine ⟨?_, ?_, ?_, ?_, ?_, hduplicate.2, ?_⟩
  · intro i j name hij hi hj hbetween
    have hkept : (s.after (steps.take j)).rows name = s.rowsAt steps i := by
      have hrest : ∀ step ∈ (steps.drop (i + 1)).take (j - (i + 1)), step ≠ .snapshot name := by
        intro step hstep hsnapshot
        obtain ⟨k, hik, hkj, hk⟩ := exists_of_mem_between steps hij hstep
        exact hbetween k hik hkj (hk.trans (congrArg some hsnapshot))
      rw [after_take_of_le s steps hij, List.take_add_one, hi, after_append]
      exact rows_after_snapshot _ hrest
    rw [answerAt_eq s steps hj, ← hkept]
    rfl
  · intro i j hij hbetween
    have hrest : ∀ step ∈ (steps.drop i).take (j - i), step ≠ .reset := by
      intro step hstep hreset
      obtain ⟨k, hik, hkj, hk⟩ := exists_of_mem_between steps hij hstep
      exact hbetween k hik hkj (hk.trans (congrArg some hreset))
    rw [rowsAt, rowsAt, after_take_of_le s steps hij]
    exact rows_isPrefix_after _ hrest
  · intro i hi
    rcases hi with hi | hi
    · rw [answerAt_eq s steps hi]
      rfl
    · rw [answerAt_eq s steps hi, rowsAt]
      show some (Except.ok (Answer.rows
        ((s.after (steps.take i)).table.iterate fun table _ => table).1)) = _
      rw [Table.iterate_eq]
  · intro visit
    rw [Table.iterate_eq]
  · show Except.ok (Answer.rows s.table.duplicate.1) = _
    rw [hduplicate.1]
  · intro k
    have hrows := toList_after_duplicates s k
    refine ⟨hrows, ?_⟩
    rw [← Table.length_toList, hrows, List.length_flatten, List.map_replicate,
      List.sum_replicate_nat, Table.length_toList, Nat.mul_comm]

/-- A name is looked at after rows have come in three ways, the table has been replaced and
another name has been taken. -/
theorem snapshots_isolated_reset :
    (∀ k, 1 < k → k < 6 →
      [Step.run "insert 7 bob b@x".toList, .snapshot ['a'], .run "insert 8 al a@x".toList,
        .duplicate, .reset, .snapshot ['b'], .view ['a']][k]? ≠ some (.snapshot ['a'])) ∧
    start.answerAt
      [.run "insert 7 bob b@x".toList, .snapshot ['a'], .run "insert 8 al a@x".toList,
        .duplicate, .reset, .snapshot ['b'], .view ['a']] 6 =
      some (.ok (.rows [⟨7, "bob".toList, "b@x".toList⟩])) := by
  have hbetween : ∀ k < 6, 1 < k →
      [Step.run "insert 7 bob b@x".toList, .snapshot ['a'], .run "insert 8 al a@x".toList,
        .duplicate, .reset, .snapshot ['b'], .view ['a']][k]? ≠ some (.snapshot ['a']) := by
    decide
  obtain ⟨hview, -⟩ := snapshots_isolated start
    [.run "insert 7 bob b@x".toList, .snapshot ['a'], .run "insert 8 al a@x".toList,
      .duplicate, .reset, .snapshot ['b'], .view ['a']]
  have hanswer := hview 1 6 ['a'] (by decide) rfl rfl fun k hlow hhigh => hbetween k hhigh hlow
  refine ⟨fun k hlow hhigh => hbetween k hhigh hlow, hanswer.trans ?_⟩
  decide +kernel

end Session

end UserDb
