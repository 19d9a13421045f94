import TerraLint.Text.Hex

/-!
# Sets of characters

A character class of the standard is a union of code point ranges. The tables of
this library write such a union as lines of text, for instance
`"41-5A 61-7A AA"`: ranges separated by blanks, the ends in hexadecimal and both
included, a single code point standing for itself. `CharSet.ofLines` reads the
lines, and `CharSet.has` decides membership.
-/

namespace TerraLint.Text

/-- A set of characters, as a list of code point ranges with both ends included. -/
structure CharSet where
  ranges : List (Nat × Nat)

namespace CharSet

/-- A character belongs to the set when its code point lies in one of the ranges. -/
def has (set : CharSet) (c : Char) : Bool :=
  set.ranges.any fun range => range.1 ≤ c.toNat && c.toNat ≤ range.2

/-- One range as the tables write it: `lo-hi`, or `lo` alone. -/
def readRange (text : String) : Nat × Nat :=
  let value (part : String) := (hexValue? part.toList).getD 0
  match text.splitOn "-" with
  | [lo, hi] => (value lo, value hi)
  | _ => (value text, value text)

/-- The set that the lines of a table describe. -/
def ofLines (lines : List String) : CharSet :=
  ⟨(lines.flatMap (·.splitOn " ")).map readRange⟩

/-- The characters that belong to one set or the other. -/
def union (a b : CharSet) : CharSet := ⟨a.ranges ++ b.ranges⟩

end CharSet

end TerraLint.Text
