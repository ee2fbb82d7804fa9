import Mathlib.Algebra.Group.Nat.Defs
import UserDb.Text.Quoted

/-!
# Quoted text is unambiguous

What stands between two marks can be read off in one pass: whatever is written
for a character shows which character it is, and where it ends.  The letter
behind a backslash decides how many digits follow, and digits of a known number
show the code point, because the forms are wide enough for it
(`form_eq_code`).

## Main results

* `escape_append_inj`: what stands for a character shows which one, and where it
  ends.
* `quoted_append_inj`: quoted text shows where it ends and what it quotes,
  whatever comes after it.
-/

namespace UserDb.Text

/-! ## Hexadecimal digits -/

private theorem digitChar_inj : ∀ a < 16, ∀ b < 16, Nat.digitChar a = Nat.digitChar b → a = b := by
  decide

/-- Numbers that fit the width have different digits. -/
theorem hexDigits_inj {width m n : Nat} (hm : m < 16 ^ width) (hn : n < 16 ^ width)
    (h : hexDigits width m = hexDigits width n) : m = n := by
  induction width generalizing m n with
  | zero => omega
  | succ width ih =>
      obtain ⟨hq, hr⟩ := List.append_inj' h rfl
      rw [Nat.pow_succ] at hm hn
      have hq := ih (by omega) (by omega) hq
      have hr := digitChar_inj _ (Nat.mod_lt m (by decide)) _ (Nat.mod_lt n (by decide))
        (List.singleton_inj.mp hr)
      omega

/-! ## Marks and forms -/

/-- The characters that may serve as marks: neither the backslash nor a letter
that has a meaning after it. -/
structure IsMark (mark : Char) : Prop where
  ne_backslash : mark ≠ backslash
  not_mem_letters : mark ∉ ['n', 'r', 't', 'x', 'u', 'U']

theorem isMark_markFor (t : Text) : IsMark (markFor t) := by
  unfold markFor
  split <;> exact ⟨by decide, by decide⟩

private theorem form_eq_plain {mark c : Char} (h : form mark c = .plain) :
    c ≠ mark ∧ c ≠ backslash := by
  grind [form]

private theorem letter_inj {mark c d l : Char} (hm : IsMark mark) (hc : form mark c = .letter l)
    (hd : form mark d = .letter l) : c = d := by
  have hmark := hm.not_mem_letters
  have hbackslash : backslash ∉ ['n', 'r', 't'] := by decide
  grind [form]

private theorem letter_not_mem {mark c l : Char} (hm : IsMark mark) (h : form mark c = .letter l) :
    l ∉ ['x', 'u', 'U'] := by
  have hmark := hm.not_mem_letters
  have hbackslash : backslash ∉ ['x', 'u', 'U'] := by decide
  grind [form]

private theorem form_eq_code {mark c l : Char} {width : Nat} (h : form mark c = .code l width) :
    c.toNat < 16 ^ width ∧ (l, width) ∈ [('x', 2), ('u', 4), ('U', 8)] := by
  have hc : c.toNat < 16 ^ 8 := c.val.toNat_lt
  unfold form at h
  iterate 5
    split at h
    · cases h
  split at h
  · next hx =>
      cases h
      exact ⟨hx, by decide⟩
  split at h
  · next hu =>
      cases h
      exact ⟨hu, by decide⟩
  · cases h
    exact ⟨hc, by decide⟩

/-! ## Characters and texts -/

/-- A mark is never the first character of what stands for another. -/
theorem escape_ne_mark_cons {mark : Char} (hm : IsMark mark) (c : Char) (s t : Text) :
    escape mark c ++ s ≠ mark :: t := by
  unfold escape
  cases hc : form mark c with
  | plain => exact fun e => (form_eq_plain hc).1 (List.cons.inj e).1
  | letter l => exact fun e => hm.ne_backslash (List.cons.inj e).1.symm
  | code l width => exact fun e => hm.ne_backslash (List.cons.inj e).1.symm

/-- What stands for a character shows which one, and where it ends. -/
theorem escape_append_inj {mark c d : Char} (hm : IsMark mark) {s t : Text}
    (h : escape mark c ++ s = escape mark d ++ t) : c = d ∧ s = t := by
  unfold escape at h
  cases hc : form mark c <;> cases hd : form mark d <;>
    simp only [hc, hd, Form.write, List.cons_append, List.nil_append, List.cons.injEq,
      true_and] at h
  case plain.plain => exact h
  case plain.letter => exact absurd h.1 (form_eq_plain hc).2
  case plain.code => exact absurd h.1 (form_eq_plain hc).2
  case letter.plain => exact absurd h.1.symm (form_eq_plain hd).2
  case code.plain => exact absurd h.1.symm (form_eq_plain hd).2
  case letter.letter =>
    obtain ⟨rfl, rfl⟩ := h
    exact ⟨letter_inj hm hc hd, rfl⟩
  case letter.code =>
    have hletter := letter_not_mem hm hc
    have hcode := (form_eq_code hd).2
    grind
  case code.letter =>
    have hletter := letter_not_mem hm hd
    have hcode := (form_eq_code hc).2
    grind
  case code.code l v l' w =>
    obtain ⟨rfl, h⟩ := h
    obtain ⟨hv, hl⟩ := form_eq_code hc
    obtain ⟨hw, hl'⟩ := form_eq_code hd
    have hvw : v = w := by grind
    subst hvw
    obtain ⟨hdigits, hrest⟩ := List.append_inj h (by simp)
    exact ⟨Char.toNat_inj.mp (hexDigits_inj hv hw hdigits), hrest⟩

private theorem flatMap_escape_inj {mark : Char} (hm : IsMark mark) {s t a b : Text}
    (h : s.flatMap (escape mark) ++ mark :: a = t.flatMap (escape mark) ++ mark :: b) :
    s = t ∧ a = b := by
  induction s generalizing t with
  | nil =>
      cases t with
      | nil => exact ⟨rfl, (List.cons.inj h).2⟩
      | cons d t =>
          rw [List.flatMap_cons, List.append_assoc] at h
          exact absurd h.symm (escape_ne_mark_cons hm d _ _)
  | cons c s ih =>
      cases t with
      | nil =>
          rw [List.flatMap_cons, List.append_assoc] at h
          exact absurd h (escape_ne_mark_cons hm c _ _)
      | cons d t =>
          simp only [List.flatMap_cons, List.append_assoc] at h
          obtain ⟨rfl, hrest⟩ := escape_append_inj hm h
          obtain ⟨rfl, rfl⟩ := ih hrest
          exact ⟨rfl, rfl⟩

/-- Quoted text shows what it quotes and where it ends. -/
theorem quoted_append_inj {s t a b : Text} (h : s.quoted ++ a = t.quoted ++ b) :
    s = t ∧ a = b := by
  simp only [quoted, List.cons_append, List.append_assoc, List.nil_append, List.cons.injEq] at h
  obtain ⟨hmark, h⟩ := h
  rw [← hmark] at h
  exact flatMap_escape_inj (isMark_markFor s) h

end UserDb.Text
