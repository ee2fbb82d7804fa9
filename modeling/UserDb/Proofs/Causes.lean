import Mathlib.Data.List.Basic
import UserDb.Proofs.Blame
import UserDb.Proofs.Recognition
import UserDb.Value

/-!
# Rejections are told apart by their causes

Two rejections are compared by their kinds and by their messages, and a message holds the text
that the rejection is about as it is, with quotes and whatever else there is in it.  Within a
kind the wording around this text is fixed, so the comparison comes down to the text itself
(`Rejection.same_iff_kind_argument`).  Between kinds messages may well be equal, and do not
count.

Since the comparison is one of causes, it is an equivalence, and everything that it is made
from respects it, a hash of kind and message included.  These are the laws that a hash set
asks for (`EquivBEq` and `LawfulHashable`), so a set of rejections counts causes whatever the
hash is.

Reading gives rejections of two kinds only, each about a text that is known from what was
read: the statement or meta command as it stands, the stripped line, or the name of a column.

## Main results

* `Rejection.same_iff_kind_argument`: what is compared.
* `Rejection.size_pair`: how many members a set of two rejections has.
* `Statement.unrecognized_of_parse`, `Command.unrecognized_of_parseMeta`,
  `Command.unrecognized_of_parse`, `Row.invalidField_of_parse`: the causes of the rejections that
  reading gives.
* `Rejection.same_by_cause`: all of it.
-/

namespace UserDb

namespace Rejection

/-! ## Kind and argument -/

/-- The text that a rejection is made with. -/
def argument : Rejection → Text
  | general message => message
  | unrecognized text => text
  | invalidField field => field

/-- There is nothing more to a rejection than its kind and this text. -/
theorem eq_iff_kind_argument {a b : Rejection} :
    a = b ↔ a.kind = b.kind ∧ a.argument = b.argument := by
  cases a <;> cases b <;> simp [kind, argument]

theorem same_iff_kind_argument {a b : Rejection} :
    a.same b = true ↔ a.kind = b.kind ∧ a.argument = b.argument :=
  same_iff_eq.trans eq_iff_kind_argument

theorem equivalence_same : Equivalence fun a b : Rejection => a.same b = true := by
  simp only [same_iff_eq]
  exact eq_equivalence

theorem same_eq_false_of_kind_ne {a b : Rejection} (h : a.kind ≠ b.kind) : a.same b = false := by
  rw [Bool.eq_false_iff, ne_eq, same_iff_kind_argument]
  exact fun hsame => h hsame.1

/-! ## Sets of rejections -/

/-- A rejection as a member of a set.  Its hash is made of its kind and its message, by any
hash of such pairs. -/
structure Hashed (hash : Kind × Text → UInt64) where
  why : Rejection

section

variable {hash : Kind × Text → UInt64}

instance : BEq (Hashed hash) := ⟨fun a b => a.why.same b.why⟩

instance : Hashable (Hashed hash) := ⟨fun a => hash (a.why.kind, a.why.message)⟩

theorem Hashed.beq_iff {a b : Hashed hash} : (a == b) = true ↔ a.why.same b.why = true := Iff.rfl

instance : EquivBEq (Hashed hash) where
  rfl := equivalence_same.refl _
  symm := equivalence_same.symm
  trans := equivalence_same.trans

instance : LawfulHashable (Hashed hash) where
  hash_eq a b h := by
    have hwhy : a.why = b.why := same_iff_eq.mp h
    show hash (a.why.kind, a.why.message) = hash (b.why.kind, b.why.message)
    rw [hwhy]

end

/-- The set of the two rejections. -/
def pair (hash : Kind × Text → UInt64) (a b : Rejection) : Std.HashSet (Hashed hash) :=
  ((∅ : Std.HashSet (Hashed hash)).insert ⟨a⟩).insert ⟨b⟩

theorem size_pair (hash : Kind × Text → UInt64) (a b : Rejection) :
    (pair hash a b).size = if a.same b = true then 1 else 2 := by
  have hmem : (⟨b⟩ : Hashed hash) ∈ (∅ : Std.HashSet (Hashed hash)).insert ⟨a⟩ ↔
      a.same b = true := by
    rw [Std.HashSet.mem_insert, Hashed.beq_iff]
    simp
  have hone : ((∅ : Std.HashSet (Hashed hash)).insert ⟨a⟩).size = 1 := by
    rw [Std.HashSet.size_insert, if_neg Std.HashSet.not_mem_empty, Std.HashSet.size_empty]
  rw [pair, Std.HashSet.size_insert, hone]
  by_cases hsame : a.same b = true
  · rw [if_pos (hmem.mpr hsame), if_pos hsame]
  · rw [if_neg (mt hmem.mp hsame), if_neg hsame]

/-- It has as many members as there are values that do not agree. -/
theorem size_pair_eq_distinct (hash : Kind × Text → UInt64) (a b : Rejection) :
    (pair hash a b).size = Value.distinct [.rejection a, .rejection b] := by
  rw [size_pair, Value.distinct_pair]
  rfl

end Rejection

/-! ## The rejections that reading gives -/

theorem Statement.unrecognized_of_parse {text : Text} {why : Rejection}
    (h : parse text = .error why) : why = .unrecognized text := by
  unfold parse at h
  split at h
  · cases h
  · cases h
  · exact (Except.error.inj h).symm

theorem Command.unrecognized_of_parseMeta {text : Text} {why : Rejection}
    (h : parseMeta text = .error why) : why = .unrecognized text := by
  unfold parseMeta at h
  split at h
  · cases h
  · exact (Except.error.inj h).symm

theorem Command.unrecognized_of_parse {line : Text} {why : Rejection}
    (h : parse line = .error why) : why = .unrecognized line.strip := by
  cases asks_of_parse h with
  | unrecognized _ _ _ => rfl

theorem Row.invalidField_of_parse {text : Text} {why : Rejection}
    (h : parse text = .error (.rejected why)) :
    ∃ column : Column, why = .invalidField column.name := by
  rcases limit_or_column_of_parse_eq_error h with ⟨e, he⟩ | ⟨column, hcolumn⟩
  · cases he
  · exact ⟨column, Fault.rejected.inj hcolumn⟩

theorem Column.name_inj {column column' : Column} :
    column.name = column'.name ↔ column = column' := by
  rw [← Row.column_inj, Fault.column, Fault.column, Fault.rejected.injEq,
    Rejection.invalidField.injEq]

namespace Rejection

/-- Rejections agree exactly if they are of one kind and made with the same text, so nothing
is confused by comparing messages, and a rejection that only reads like one of another kind is
not the same.  This is an equivalence, and a set of two rejections has one member exactly if
they agree.  Of the rejections that reading gives, those of lines agree if the stripped lines
are equal, those of statements and meta commands are about the whole text, and those of
arguments agree if they name the same column. -/
theorem same_by_cause :
    (∀ a b : Rejection, a.same b = true ↔ a.kind = b.kind ∧ a.argument = b.argument) ∧
    Equivalence (fun a b : Rejection => a.same b = true) ∧
    (∀ a : Rejection, a.kind ≠ .general → (general a.message).message = a.message ∧
      (general a.message).same a = false ∧ a.same (general a.message) = false) ∧
    (∀ (hash : Kind × Text → UInt64) (a b : Rejection),
      (pair hash a b).size = Value.distinct [.rejection a, .rejection b] ∧
      ((pair hash a b).size = 1 ↔ a.same b = true)) ∧
    (∀ line line' why why', Command.parse line = .error why → Command.parse line' = .error why' →
      (why.same why' = true ↔ line.strip = line'.strip)) ∧
    (∀ text why, Statement.parse text = .error why ∨ Command.parseMeta text = .error why →
      why = .unrecognized text) ∧
    ∀ text text' why why', Row.parse text = .error (.rejected why) →
      Row.parse text' = .error (.rejected why') → ∃ column column' : Column,
        why = .invalidField column.name ∧ why' = .invalidField column'.name ∧
          (why.same why' = true ↔ column = column') := by
  refine ⟨fun a b => same_iff_kind_argument, equivalence_same, ?_, ?_, ?_, ?_, ?_⟩
  · intro a hkind
    exact ⟨rfl, same_eq_false_of_kind_ne hkind.symm, same_eq_false_of_kind_ne hkind⟩
  · intro hash a b
    refine ⟨size_pair_eq_distinct hash a b, ?_⟩
    rw [size_pair]
    by_cases hsame : a.same b = true
    · rw [if_pos hsame]
      exact iff_of_true rfl hsame
    · rw [if_neg hsame]
      exact iff_of_false (by decide) hsame
  · intro line line' why why' h h'
    rw [Command.unrecognized_of_parse h, Command.unrecognized_of_parse h', same_iff_eq,
      unrecognized.injEq]
  · intro text why h
    rcases h with hstatement | hmeta
    · exact Statement.unrecognized_of_parse hstatement
    · exact Command.unrecognized_of_parseMeta hmeta
  · intro text text' why why' h h'
    obtain ⟨column, hwhy⟩ := Row.invalidField_of_parse h
    obtain ⟨column', hwhy'⟩ := Row.invalidField_of_parse h'
    refine ⟨column, column', hwhy, hwhy', ?_⟩
    rw [hwhy, hwhy', same_iff_eq, invalidField.injEq, Column.name_inj]

/-- Two lines with quotes in them that differ in the blanks around them only, a rejection that
reads like theirs, and two arguments that are bad for different reasons, but in one field. -/
theorem same_by_cause_quotes :
    Command.parse " it's '' ".toList = .error (.unrecognized "it's ''".toList) ∧
    Command.parse "it's ''\n".toList = .error (.unrecognized "it's ''".toList) ∧
    (unrecognized "it's ''".toList).same (unrecognized "it's ''".toList) = true ∧
    (general "Unrecognized keyword at start of 'it's '''".toList).same
      (unrecognized "it's ''".toList) = false ∧
    Row.parse "-1 al a@x".toList = .error (.rejected (.invalidField "id".toList)) ∧
    Row.parse " ".toList = .error (.rejected (.invalidField "id".toList)) ∧
    (invalidField "id".toList).same (invalidField "id".toList) = true := by
  obtain ⟨-, -, hkinds, -, hlines, -, harguments⟩ := same_by_cause
  have hline : Command.parse " it's '' ".toList = .error (.unrecognized "it's ''".toList) := by
    decide +kernel
  have hline' : Command.parse "it's ''\n".toList = .error (.unrecognized "it's ''".toList) := by
    decide +kernel
  have hkind : (unrecognized "it's ''".toList).kind ≠ .general := by decide
  obtain ⟨-, hfalse, -⟩ := hkinds (unrecognized "it's ''".toList) hkind
  have hmessage : (unrecognized "it's ''".toList).message =
      "Unrecognized keyword at start of 'it's '''".toList := by decide +kernel
  rw [hmessage] at hfalse
  have hbad : Row.parse "-1 al a@x".toList = .error (.rejected (.invalidField "id".toList)) := by
    decide +kernel
  have hnone : Row.parse " ".toList = .error (.rejected (.invalidField "id".toList)) := by
    decide +kernel
  obtain ⟨column, column', hcolumn, hcolumn', hsame⟩ := harguments _ _ _ _ hbad hnone
  have hcolumns : column = column' := by
    rw [← Column.name_inj, ← invalidField.injEq, ← hcolumn, ← hcolumn']
  exact ⟨hline, hline', (hlines _ _ _ _ hline hline').mpr (by decide), hfalse, hbad, hnone,
    hsame.mpr hcolumns⟩

end Rejection

end UserDb
