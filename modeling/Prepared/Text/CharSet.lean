/-!
# Sets of characters

A character set is a list of inclusive ranges of code points. It is how the properties of the
Unicode character database that this library needs are written down: `Prepared.Text.Blank`,
`Prepared.Text.Letter`, `Prepared.Text.LowerCase`, `Prepared.Text.Printable` and
`Prepared.Text.DisplayWidth` hold the tables.
-/

namespace Prepared.Text

/-- A set of characters, as inclusive ranges of code points. -/
structure CharSet where
  /-- First and last code point of each range. -/
  ranges : List (Nat × Nat)

namespace CharSet

/-- Whether `c` lies in one of the ranges of `s`. -/
def contains (s : CharSet) (c : Char) : Bool :=
  s.ranges.any fun r => r.1 ≤ c.toNat && c.toNat ≤ r.2

/-- Membership is being between the ends of some range. -/
theorem contains_iff {s : CharSet} {c : Char} :
    s.contains c = true ↔ ∃ r ∈ s.ranges, r.1 ≤ c.toNat ∧ c.toNat ≤ r.2 := by
  simp [contains]

end CharSet

end Prepared.Text
