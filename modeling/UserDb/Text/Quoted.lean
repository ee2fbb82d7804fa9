import UserDb.Text.Basic
import UserDb.Text.Printable

/-!
# Quoted text

`quoted t` shows any text on one line, between two marks, so that nothing in it
can be mistaken for what stands around it. The mark is the apostrophe, unless
the text holds apostrophes and no double quotes: then it is the double quote.

Inside, the mark in use and the backslash are written after a backslash, line
feed, carriage return and tab by their letters, and every other character that
is not printable by its code point, in lower-case hexadecimal digits whose
number is fixed by the letter in front of them: `x` and two, `u` and four, `U`
and eight. Printable characters stand for themselves.
-/

namespace UserDb.Text

/-! ## Hexadecimal digits -/

/-- The last `width` hexadecimal digits of `n`, the most significant first. -/
def hexDigits : Nat → Nat → Text
  | 0, _ => []
  | width + 1, n => hexDigits width (n / 16) ++ [Nat.digitChar (n % 16)]

@[simp] theorem length_hexDigits (width n : Nat) : (hexDigits width n).length = width := by
  induction width generalizing n with
  | zero => rfl
  | succ width ih => simp [hexDigits, ih]

/-! ## Marks and escapes -/

/-- The apostrophe. -/
def apostrophe : Char := '\x27'

/-- The double quote. -/
def doubleQuote : Char := '\x22'

/-- The backslash, which starts every escape. -/
def backslash : Char := '\x5c'

/-- The mark put around `t`: the apostrophe, unless only the double quote is free. -/
def markFor (t : Text) : Char :=
  if apostrophe ∈ t ∧ doubleQuote ∉ t then doubleQuote else apostrophe

/-- How a character is written between two marks: by itself, by a letter after a
backslash, or by a letter after a backslash and so many digits of its code point. -/
inductive Form
  | plain
  | letter (letter : Char)
  | code (letter : Char) (width : Nat)
deriving DecidableEq, Repr

/-- The form for `c` between two marks. -/
def form (mark c : Char) : Form :=
  if c = mark ∨ c = backslash then .letter c
  else if c = '\n' then .letter 'n'
  else if c = '\r' then .letter 'r'
  else if c = '\t' then .letter 't'
  else if isPrintable c then .plain
  else if c.toNat < 0x100 then .code 'x' 2
  else if c.toNat < 0x10000 then .code 'u' 4
  else .code 'U' 8

/-- The character `c` in the given form. -/
def Form.write (c : Char) : Form → Text
  | plain => [c]
  | letter l => [backslash, l]
  | code l width => backslash :: l :: hexDigits width c.toNat

/-- The character `c` as it is written between two marks. -/
def escape (mark c : Char) : Text := (form mark c).write c

/-- The text between two marks, everything in it escaped that needs to be. -/
def quoted (t : Text) : Text := markFor t :: (t.flatMap (escape (markFor t)) ++ [markFor t])

end UserDb.Text
