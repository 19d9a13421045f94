import TerraLint.Text.Hex

/-!
# Maps between characters

A case mapping of the standard sends most characters to themselves and moves the
others in long regular runs. A run `lo-hi*step:target` sends `lo`, `lo + step`,
… , `hi` to `target`, `target + step`, …; the tables write a list of such runs,
separated by blanks, all numbers but the step in hexadecimal, `*1` and `-lo`
left out. `CharMap.apply` follows the map, and `CharMap.sources` walks it
backwards.
-/

namespace TerraLint.Text

/-- A regular run of a character map: every `step`-th code point from `first` to
`last`, moved so that `first` goes to `target`. -/
structure CharRun where
  first : Nat
  last : Nat
  step : Nat
  target : Nat

namespace CharRun

/-- The image of a code point, when the run moves it. -/
def image? (run : CharRun) (n : Nat) : Option Nat :=
  if run.first ≤ n && n ≤ run.last && (n - run.first) % run.step == 0 then
    some (run.target + (n - run.first))
  else none

/-- The code point that the run moves to `n`, when there is one. -/
def source? (run : CharRun) (n : Nat) : Option Nat :=
  let candidate := run.first + (n - run.target)
  if run.target ≤ n && run.image? candidate == some n then some candidate else none

/-- One run as the tables write it. -/
def ofText (text : String) : CharRun :=
  let value (part : String) := (hexValue? part.toList).getD 0
  let (domain, target) := match text.splitOn ":" with
    | [domain, target] => (domain, value target)
    | _ => (text, 0)
  let (ends, step) := match domain.splitOn "*" with
    | [ends, step] => (ends, value step)
    | _ => (domain, 1)
  match ends.splitOn "-" with
  | [first, last] => ⟨value first, value last, step, target⟩
  | _ => ⟨value ends, value ends, step, target⟩

end CharRun

/-- A map between characters that moves the characters of its runs and keeps all others. -/
structure CharMap where
  runs : List CharRun

namespace CharMap

/-- The map that the lines of a table describe. -/
def ofLines (lines : List String) : CharMap :=
  ⟨(lines.flatMap (·.splitOn " ")).map CharRun.ofText⟩

/-- The image of a character. -/
def apply (map : CharMap) (c : Char) : Char :=
  match map.runs.findSome? fun run => run.image? c.toNat with
  | some n => (scalar? n).getD c
  | none => c

/-- The characters, other than `c` itself, that the map sends to `c`. -/
def sources (map : CharMap) (c : Char) : List Char :=
  map.runs.filterMap fun run => (run.source? c.toNat).bind scalar?

end CharMap

end TerraLint.Text
