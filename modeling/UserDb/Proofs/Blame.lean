import Mathlib.Data.List.Basic
import UserDb.Proofs.Grammar

/-!
# Which field is blamed

An argument may have several things wrong with it, and its fault names one.  This file
says which: that of the first field that cannot be read, where a number past the digit
limit comes between a number that is none and the name.

What can be wrong with a field is said of the fields alone (`Unfit`, `IdOverlong`), and
the fields are the maximal runs without blanks (`Text.Fields`).  The three readers
each look at one condition, so each has an equivalence for the fault and one for the
value, and the outcomes of the whole are put together from these.

A reader looks at one position.  If there is a field at it, more fields behind change
nothing, except that the email has to be the last.  So a fault that is not that of a field
missing is settled, whatever else is written behind the argument (`parse_append`).

## Main results

* `Text.fields_iff_words`: the words of a text are its fields.
* `verdict_parse`, `Verdict.outcomes`: the five outcomes, each with what the fields have to
  be.
* `parse_append`, `parse_append_of_ok`: what is written behind an argument.
* `parse_blames`: all of it.
-/

namespace UserDb

namespace Text

/-! ## Fields -/

/-- The maximal runs of a text without blanks, in order.  Each is a word, between a gap
and a rest that does not go on with it. -/
inductive Fields : Text → List Text → Prop
  | none {t : Text} : t.Blank → Fields t []
  | next {gap word rest : Text} {others : List Text} : gap.Blank → word.IsWord →
      rest.StartsBlank → Fields rest others → Fields (gap ++ word ++ rest) (word :: others)

/-- Every text has its words as fields, and no others. -/
theorem fields_iff_words {t : Text} {fields : List Text} : Fields t fields ↔ t.words = fields := by
  constructor
  · intro h
    induction h with
    | none hblank => exact words_eq_nil hblank
    | next hgap hword hrest _ ih => rw [words_gap_word hgap hword hrest, ih]
  · intro h
    induction fields generalizing t with
    | nil => exact .none (words_eq_nil_iff.mp h)
    | cons word others ih =>
        obtain ⟨gap, rest, hgap, hword, hrest, hothers, rfl⟩ := words_eq_cons_iff.mp h
        exact .next hgap hword hrest (ih hothers)

end Text

/-- The position of the column's field. -/
def Column.index : Column → Nat
  | id => 0
  | username => 1
  | email => 2

namespace Row

/-! ## What is wrong with the fields -/

/-- The field of the column is missing, or it is not what the column takes.  A field behind
the last makes the last one unfit. -/
def Unfit (fields : List Text) : Column → Prop
  | .id => ∀ id ∈ fields[0]?, ∃ c ∈ id, c.isDigit = false
  | .username => ∀ username ∈ fields[1]?, 32 < username.length
  | .email => (∀ email ∈ fields[2]?, 255 < email.length) ∨ 3 < fields.length

/-- The first field has too many characters for a number. -/
def IdOverlong (fields : List Text) : Prop := ∃ id ∈ fields[0]?, 4300 < id.length

/-- What comes of some fields, by the first of them that is unfit. -/
inductive Verdict (fields : List Text) : Except Fault Row → Prop
  | id : Unfit fields .id → Verdict fields (.error (.column .id))
  | limit {id : Text} : ¬ Unfit fields .id → id ∈ fields[0]? → 4300 < id.length →
      Verdict fields (.error (.limit (.reading id.length)))
  | username : ¬ Unfit fields .id → ¬ IdOverlong fields → Unfit fields .username →
      Verdict fields (.error (.column .username))
  | email : ¬ Unfit fields .id → ¬ IdOverlong fields → ¬ Unfit fields .username →
      Unfit fields .email → Verdict fields (.error (.column .email))
  | row {row : Row} : ¬ Unfit fields .id → ¬ IdOverlong fields → ¬ Unfit fields .username →
      ¬ Unfit fields .email → Verdict fields (.ok row)

/-! ## The readers -/

theorem isNumeral_eq_false_iff {word : Text} (h : word ≠ []) :
    Numeral.isNumeral word = false ↔ ∃ c ∈ word, c.isDigit = false := by
  simp [Numeral.isNumeral, h]

section

variable {fields : List Text} (hwords : ∀ field ∈ fields, field ≠ [])
include hwords

theorem readId_of_unfit (h : Unfit fields .id) : readId fields = .error (.column .id) := by
  refine readId_eq_error_iff.mpr (.inr ⟨?_, rfl⟩)
  intro id hid
  rw [List.head?_eq_getElem?] at hid
  exact (isNumeral_eq_false_iff (hwords id (List.mem_of_getElem? hid))).mpr (h id hid)

theorem exists_id_of_fit (h : ¬ Unfit fields .id) :
    ∃ id others, fields = id :: others ∧ Numeral.isNumeral id = true := by
  cases fields with
  | nil => exact absurd (by simp [Unfit]) h
  | cons id others =>
      refine ⟨id, others, rfl, ?_⟩
      rw [← Bool.not_eq_false, isNumeral_eq_false_iff (hwords id (by simp))]
      simpa [Unfit] using h

theorem readId_of_overlong (h : ¬ Unfit fields .id) {id : Text} (hid : id ∈ fields[0]?)
    (hlong : 4300 < id.length) : readId fields = .error (.limit (.reading id.length)) := by
  obtain ⟨id', others, rfl, hnumeral⟩ := exists_id_of_fit hwords h
  have hsame : id' = id := Option.some.inj hid
  rw [hsame] at hnumeral ⊢
  exact readId_of_maxDigits_lt others hnumeral hlong

theorem exists_readId (h : ¬ Unfit fields .id) (hlong : ¬ IdOverlong fields) :
    ∃ id, readId fields = .ok id := by
  obtain ⟨id, others, rfl, hnumeral⟩ := exists_id_of_fit hwords h
  have hlength : id.length ≤ 4300 := Nat.not_lt.mp fun hlt => hlong ⟨id, rfl, hlt⟩
  exact ⟨_, readId_of_length_le others hnumeral hlength⟩

end

theorem readUsername_of_unfit {fields : List Text} (h : Unfit fields .username) :
    readUsername fields = .error (.column .username) := by
  match fields with
  | [] => rfl
  | [_] => rfl
  | _ :: word :: _ =>
      have hlong : 32 < word.length := h word rfl
      exact if_neg (Nat.not_le.mpr hlong)

theorem exists_readUsername {fields : List Text} (h : ¬ Unfit fields .username) :
    ∃ username, readUsername fields = .ok username := by
  match fields with
  | [] => exact absurd (by simp [Unfit]) h
  | [_] => exact absurd (by simp [Unfit]) h
  | _ :: word :: _ =>
      have hshort : word.length ≤ 32 := by simpa [Unfit] using h
      exact ⟨word, if_pos hshort⟩

theorem readEmail_of_unfit {fields : List Text} (h : Unfit fields .email) :
    readEmail fields = .error (.column .email) := by
  match fields with
  | [] => rfl
  | [_] => rfl
  | [_, _] => rfl
  | [_, _, word] =>
      have hlong : 255 < word.length := by simpa [Unfit] using h
      exact if_neg (Nat.not_le.mpr hlong)
  | _ :: _ :: _ :: _ :: _ => rfl

theorem exists_readEmail {fields : List Text} (h : ¬ Unfit fields .email) :
    ∃ email, readEmail fields = .ok email := by
  match fields with
  | [] => exact absurd (by simp [Unfit]) h
  | [_] => exact absurd (by simp [Unfit]) h
  | [_, _] => exact absurd (by simp [Unfit]) h
  | [_, _, word] =>
      have hshort : word.length ≤ 255 := by simpa [Unfit] using h
      exact ⟨word, if_pos hshort⟩
  | _ :: _ :: _ :: _ :: _ => exact absurd (by simp [Unfit]) h

/-! ## The outcomes -/

section

variable {fields : List Text} (hwords : ∀ field ∈ fields, field ≠ [])
include hwords

/-- A verdict of a fault is carried out. -/
theorem Verdict.eq_of_error {f : Fault} (h : Verdict fields (.error f)) :
    ofWords fields = .error f := by
  cases h with
  | id hid =>
      rw [ofWords, readId_of_unfit hwords hid]
      rfl
  | limit hid hmem hlong =>
      rw [ofWords, readId_of_overlong hwords hid hmem hlong]
      rfl
  | username hid hlong husername =>
      obtain ⟨id, hread⟩ := exists_readId hwords hid hlong
      rw [ofWords, hread, readUsername_of_unfit husername]
      rfl
  | email hid hlong husername hemail =>
      obtain ⟨id, hread⟩ := exists_readId hwords hid hlong
      obtain ⟨username, hread'⟩ := exists_readUsername husername
      rw [ofWords, hread, hread', readEmail_of_unfit hemail]
      rfl

/-- There is always a verdict. -/
theorem verdict_ofWords : Verdict fields (ofWords fields) := by
  by_cases hid : Unfit fields .id
  · exact (Verdict.id hid).eq_of_error hwords ▸ .id hid
  by_cases hlong : IdOverlong fields
  · obtain ⟨id, hmem, hlong⟩ := hlong
    exact (Verdict.limit hid hmem hlong).eq_of_error hwords ▸ .limit hid hmem hlong
  by_cases husername : Unfit fields .username
  · exact (Verdict.username hid hlong husername).eq_of_error hwords ▸
      .username hid hlong husername
  by_cases hemail : Unfit fields .email
  · exact (Verdict.email hid hlong husername hemail).eq_of_error hwords ▸
      .email hid hlong husername hemail
  obtain ⟨id, hread⟩ := exists_readId hwords hid hlong
  obtain ⟨username, hread'⟩ := exists_readUsername husername
  obtain ⟨email, hread''⟩ := exists_readEmail hemail
  rw [ofWords, hread, hread', hread'']
  exact .row hid hlong husername hemail

end

theorem ne_nil_of_mem_words {text field : Text} (h : field ∈ text.words) : field ≠ [] :=
  (Text.isWord_of_mem_words h).1

theorem verdict_parse (text : Text) : Verdict text.words (parse text) :=
  verdict_ofWords fun _ => ne_nil_of_mem_words

theorem parse_eq_error_of_verdict {text : Text} {f : Fault}
    (h : Verdict text.words (.error f)) : parse text = .error f :=
  h.eq_of_error fun _ => ne_nil_of_mem_words

/-- The five outcomes, each exactly when the fields before the one it is about are in
order and this one is not. -/
structure Outcomes (fields : List Text) (outcome : Except Fault Row) : Prop where
  id : outcome = .error (.column .id) ↔ Unfit fields .id
  limit : ∀ n, outcome = .error (.limit (.reading n)) ↔
    ¬ Unfit fields .id ∧ ∃ id ∈ fields[0]?, 4300 < id.length ∧ id.length = n
  username : outcome = .error (.column .username) ↔
    ¬ Unfit fields .id ∧ ¬ IdOverlong fields ∧ Unfit fields .username
  email : outcome = .error (.column .email) ↔
    ¬ Unfit fields .id ∧ ¬ IdOverlong fields ∧ ¬ Unfit fields .username ∧ Unfit fields .email
  row : (∃ row, outcome = .ok row) ↔
    ¬ Unfit fields .id ∧ ¬ IdOverlong fields ∧ ¬ Unfit fields .username ∧ ¬ Unfit fields .email

theorem column_inj {column column' : Column} :
    Fault.column column = Fault.column column' ↔ column = column' := by
  cases column <;> cases column' <;> simp [Fault.column, Column.name, Text.ofString_eq]

theorem column_ne_limit (column : Column) (e : Numeral.LimitError) :
    Fault.column column ≠ .limit e := nofun

theorem limit_ne_column (e : Numeral.LimitError) (column : Column) :
    .limit e ≠ Fault.column column := nofun

/-- If the first field is short enough, it is not too long by any number of characters. -/
theorem not_exists_overlong {fields : List Text} (h : ¬ IdOverlong fields) (n : Nat) :
    ¬ ∃ id ∈ fields[0]?, 4300 < id.length ∧ id.length = n := by
  intro hlong
  obtain ⟨id, hid, hlong, -⟩ := hlong
  exact h ⟨id, hid, hlong⟩

/-- Of the five conditions that the verdicts are about one holds, so the verdict is what
they say. -/
theorem Verdict.outcomes {fields : List Text} {outcome : Except Fault Row}
    (h : Verdict fields outcome) : Outcomes fields outcome := by
  cases h with
  | id hid => constructor <;> simp [hid, column_inj, column_ne_limit]
  | limit hid hmem hlong =>
      have hoverlong : IdOverlong fields := ⟨_, hmem, hlong⟩
      have hfirst := Option.mem_def.mp hmem
      constructor <;> simp [hid, hoverlong, hfirst, hlong, limit_ne_column]
  | username hid hlong husername =>
      have hnone := not_exists_overlong hlong
      constructor <;> simp only [hid, hlong, husername, hnone] <;>
        simp [column_inj, column_ne_limit]
  | email hid hlong husername hemail =>
      have hnone := not_exists_overlong hlong
      constructor <;> simp only [hid, hlong, husername, hemail, hnone] <;>
        simp [column_inj, column_ne_limit]
  | row hid hlong husername hemail =>
      have hnone := not_exists_overlong hlong
      constructor <;> simp only [hid, hlong, husername, hemail, hnone] <;> simp

/-! ## Fields behind -/

/-- The field of the fault is there.  A fault that is not a column's is that of a first field
that is there. -/
def Present (fields : List Text) (f : Fault) : Prop :=
  ∀ column, f = .column column → column.index < fields.length

theorem index_lt_of_fit {fields : List Text} {column : Column} (h : ¬ Unfit fields column) :
    column.index < fields.length := by
  rw [← Nat.not_le]
  intro hmissing
  have hnone : fields[column.index]? = none := List.getElem?_eq_none hmissing
  apply h
  cases column <;> simp_all [Unfit, Column.index]

section

variable {fields : List Text} (more : List Text)

/-- A field that is there stays what it is. -/
theorem unfit_append_iff {column : Column} (hne : column ≠ .email)
    (hpresent : column.index < fields.length) :
    Unfit (fields ++ more) column ↔ Unfit fields column := by
  cases column with
  | id =>
      have hlt : 0 < fields.length := hpresent
      simp only [Unfit, List.getElem?_append_left hlt]
  | username =>
      have hlt : 1 < fields.length := hpresent
      simp only [Unfit, List.getElem?_append_left hlt]
  | email => exact absurd rfl hne

theorem fit_append {column : Column} (hne : column ≠ .email) (h : ¬ Unfit fields column) :
    ¬ Unfit (fields ++ more) column :=
  mt (unfit_append_iff more hne (index_lt_of_fit h)).mp h

/-- The email may become unfit by what is behind it, but not fit. -/
theorem unfit_email_append (hpresent : 2 < fields.length) (h : Unfit fields .email) :
    Unfit (fields ++ more) .email := by
  rcases h with hlong | hextra
  · left
    rw [List.getElem?_append_left hpresent]
    exact hlong
  · right
    rw [List.length_append]
    omega

theorem not_idOverlong_append (hid : ¬ Unfit fields .id) (hlong : ¬ IdOverlong fields) :
    ¬ IdOverlong (fields ++ more) := by
  have hfirst : 0 < fields.length := index_lt_of_fit hid
  rw [IdOverlong, List.getElem?_append_left hfirst]
  exact hlong

/-- A verdict on a field that is there is final. -/
theorem Verdict.append {f : Fault} (h : Verdict fields (.error f)) (hpresent : Present fields f) :
    Verdict (fields ++ more) (.error f) := by
  cases h with
  | id hid => exact .id ((unfit_append_iff more (by decide) (hpresent .id rfl)).mpr hid)
  | limit hid hmem hlong =>
      have hfirst : 0 < fields.length := index_lt_of_fit hid
      refine .limit (fit_append more (by decide) hid) ?_ hlong
      rw [List.getElem?_append_left hfirst]
      exact hmem
  | username hid hlong husername =>
      exact .username (fit_append more (by decide) hid) (not_idOverlong_append more hid hlong)
        ((unfit_append_iff more (by decide) (hpresent .username rfl)).mpr husername)
  | email hid hlong husername hemail =>
      exact .email (fit_append more (by decide) hid) (not_idOverlong_append more hid hlong)
        (fit_append more (by decide) husername)
        (unfit_email_append more (hpresent .email rfl) hemail)

/-- Where there was nothing wrong, a field too many is. -/
theorem Verdict.append_extra {row : Row} (h : Verdict fields (.ok row)) (hmore : more ≠ []) :
    Verdict (fields ++ more) (.error (.column .email)) := by
  cases h with
  | row hid hlong husername hemail =>
      refine .email (fit_append more (by decide) hid) (not_idOverlong_append more hid hlong)
        (fit_append more (by decide) husername) (.inr ?_)
      have hthird : 2 < fields.length := index_lt_of_fit hemail
      have hpos : 0 < more.length := List.length_pos_iff.mpr hmore
      rw [List.length_append]
      omega

end

/-- Behind a fault whose field is there, anything may be written. -/
theorem parse_append {text : Text} {f : Fault} (h : parse text = .error f)
    (hpresent : Present text.words f) {suffix : Text} (hsuffix : suffix.StartsBlank) :
    parse (text ++ suffix) = .error f := by
  apply parse_eq_error_of_verdict
  rw [Text.words_append_startsBlank hsuffix]
  exact (h ▸ verdict_parse text).append _ hpresent

/-- Behind a row, only blanks may. -/
theorem parse_append_of_ok {text : Text} {row : Row} (h : parse text = .ok row) {gap more : Text}
    (hgap : gap.Blank) (hne : gap ≠ []) (hmore : ¬ more.Blank) :
    parse (text ++ gap ++ more) = .error (.column .email) := by
  apply parse_eq_error_of_verdict
  have hwords : (gap ++ more).words ≠ [] := by
    rw [Text.words_append_left hgap]
    exact mt Text.words_eq_nil_iff.mp hmore
  rw [List.append_assoc, Text.words_append_startsBlank (Text.startsBlank_append hgap hne more)]
  exact (h ▸ verdict_parse text).append_extra _ hwords

/-- The fault of an argument is that of its first unfit field, a number past the digit limit
coming behind one that is none.  If this field is there, the fault is the same whatever is
written behind the argument.  If there is no fault, whatever is written behind it, apart from
blanks, is one of the email. -/
theorem parse_blames {text : Text} {fields : List Text} (hfields : text.Fields fields) :
    Outcomes fields (parse text) ∧
    (∀ (f : Fault) (suffix : Text), parse text = .error f → Present fields f →
      suffix.StartsBlank → parse (text ++ suffix) = .error f) ∧
    ∀ (row : Row) (gap more : Text), parse text = .ok row → gap.Blank → gap ≠ [] →
      ¬ more.Blank → parse (text ++ gap ++ more) = .error (.column .email) := by
  obtain rfl := Text.fields_iff_words.mp hfields
  refine ⟨(verdict_parse text).outcomes, ?_, ?_⟩
  · intro f suffix h hpresent hsuffix
    exact parse_append h hpresent hsuffix
  · intro row gap more h hgap hne hmore
    exact parse_append_of_ok h hgap hne hmore

/-- The name is one character too long and there are fields behind the email, but the name
comes first, before and behind a blank of another kind. -/
theorem parse_blames_username :
    Text.Fields ("007\t".toList ++ List.replicate 33 'u' ++ " b@x c".toList)
      ["007".toList, List.replicate 33 'u', "b@x".toList, "c".toList] ∧
    parse ("007\t".toList ++ List.replicate 33 'u' ++ " b@x c".toList) =
      .error (.column .username) ∧
    parse ("007\t".toList ++ List.replicate 33 'u' ++ " b@x c".toList ++ "\u2003d".toList) =
      .error (.column .username) := by
  have hfields : Text.Fields ("007\t".toList ++ List.replicate 33 'u' ++ " b@x c".toList)
      ["007".toList, List.replicate 33 'u', "b@x".toList, "c".toList] :=
    Text.fields_iff_words.mpr (by decide +kernel)
  obtain ⟨houtcomes, hstable, -⟩ := parse_blames hfields
  have hid : ¬ Unfit ["007".toList, List.replicate 33 'u', "b@x".toList, "c".toList] .id := by
    simp [Unfit]
  have hlong : ¬ IdOverlong ["007".toList, List.replicate 33 'u', "b@x".toList, "c".toList] := by
    simp [IdOverlong]
  have husername :
      Unfit ["007".toList, List.replicate 33 'u', "b@x".toList, "c".toList] .username := by
    simp [Unfit]
  have hparse := houtcomes.username.mpr ⟨hid, hlong, husername⟩
  have hblank : Text.isBlank '\u2003' = true := by decide
  refine ⟨hfields, hparse, hstable _ _ hparse ?_ (by simpa [Text.StartsBlank] using hblank)⟩
  intro column hcolumn
  rw [← column_inj.mp hcolumn]
  decide

end Row

end UserDb
