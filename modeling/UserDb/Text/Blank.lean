import UserDb.Text.Basic
import UserDb.Text.CodeRanges

/-!
# Blanks

The blank characters are those of the Unicode property `White_Space` together
with the four information separators U+001C to U+001F. Characters that merely
look empty, such as the zero width space, the byte order mark and the Mongolian
vowel separator, are ordinary characters.

A gap is a text of blanks, `Blank`, and a word is a nonempty text without any,
`IsWord`.
-/

namespace UserDb.Text

/-! ## The class -/

/-- The ranges of the blank characters, of which there are 29. -/
def blankRanges : CodeRanges :=
  [(0x09, 0x0D), (0x1C, 0x20), (0x85, 0x85), (0xA0, 0xA0), (0x1680, 0x1680), (0x2000, 0x200A),
   (0x2028, 0x2029), (0x202F, 0x202F), (0x205F, 0x205F), (0x3000, 0x3000)]

/-- Whether `c` is a blank. -/
def isBlank (c : Char) : Bool := blankRanges.contains c

/-- A text of blanks only, the empty one included. -/
def Blank (t : Text) : Prop := ∀ c ∈ t, isBlank c = true

instance (t : Text) : Decidable (Blank t) := List.decidableBAll (fun c => isBlank c = true) t

/-- A nonempty text without blanks. -/
def IsWord (t : Text) : Prop := t ≠ [] ∧ ∀ c ∈ t, isBlank c = false

instance (t : Text) : Decidable (IsWord t) :=
  haveI := List.decidableBAll (fun c => isBlank c = false) t
  instDecidableAnd

@[simp] theorem blank_nil : Blank [] := by simp [Blank]

theorem blank_append_iff {s t : Text} : Blank (s ++ t) ↔ Blank s ∧ Blank t := by
  simp only [Blank, List.mem_append, or_imp, forall_and]

end UserDb.Text
