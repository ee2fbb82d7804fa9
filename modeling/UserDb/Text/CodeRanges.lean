/-!
# Character classes as code point ranges

A class of characters is written down as a list of closed ranges of code
points, ascending and apart. `CodeRanges.contains` is the membership test.

* `contains_eq_true_iff`: a range holds the character's code point;
* `contains_eq_false_of_gap`: between two neighbouring ranges there is nothing.
-/

namespace UserDb

/-- Closed ranges of code points, each given by its first and last member. -/
abbrev CodeRanges := List (Nat × Nat)

namespace CodeRanges

/-- Whether one of the ranges holds the code point of `c`. -/
def contains (ranges : CodeRanges) (c : Char) : Bool :=
  ranges.any fun r => r.1 ≤ c.toNat && c.toNat ≤ r.2

theorem contains_eq_true_iff {ranges : CodeRanges} {c : Char} :
    ranges.contains c = true ↔ ∃ r ∈ ranges, r.1 ≤ c.toNat ∧ c.toNat ≤ r.2 := by
  simp [contains]

/-- Characters from `lo` to `hi` are in no range if all of them end before `lo`
or start after `hi`. -/
theorem contains_eq_false_of_gap {ranges : CodeRanges} {lo hi : Nat}
    (h : (ranges.all fun r => r.2 < lo || hi < r.1) = true) {c : Char} (hlo : lo ≤ c.toNat)
    (hhi : c.toNat ≤ hi) : ranges.contains c = false := by
  refine Bool.eq_false_iff.mpr fun hc => ?_
  obtain ⟨r, hr, h₁, h₂⟩ := contains_eq_true_iff.mp hc
  have hgap := List.all_eq_true.mp h r hr
  simp only [Bool.or_eq_true, decide_eq_true_eq] at hgap
  omega

end CodeRanges

end UserDb
