import TerraLint.Text.Alphabetic

/-!
# Patterns

A pattern describes texts: characters of a class, one thing after another, one
thing or another, repetition, and conditions on the place in the text (`Look`).
The linter asks one question about a pattern: does some stretch of a text match
it?

The answer is by sets of places. From some places in the text a pattern leads to
the places at which a match that starts at one of them can end (`Pattern.ends`);
these places are finitely many, so repetition is a search that stops when nothing
new turns up (`reach`), and neither greediness nor the order of alternatives
matters.
-/

namespace TerraLint

/-- A condition on a place in a text. -/
inductive Look where
  | textStart
  | textEnd
  /-- The start of a line; with `crlf` also a carriage return ends a line. -/
  | lineStart (crlf : Bool)
  | lineEnd (crlf : Bool)
  /-- A word begins or ends here; with `ascii` only ASCII characters make up words. -/
  | wordBoundary (ascii : Bool)
  | notWordBoundary (ascii : Bool)
  | wordStart (ascii : Bool)
  | wordEnd (ascii : Bool)
  /-- No word character stands before. -/
  | wordStartHalf (ascii : Bool)
  /-- No word character follows. -/
  | wordEndHalf (ascii : Bool)
  deriving DecidableEq, Repr

/-- A pattern. -/
inductive Pattern where
  /-- The empty text. -/
  | empty
  /-- One character of a class. -/
  | one (holds : Char → Bool)
  | look (condition : Look)
  | concat (first second : Pattern)
  | alternate (first second : Pattern)
  /-- At least `least` repetitions, and at most `most` if there is a bound. -/
  | repeated (body : Pattern) (least : Nat) (most : Option Nat)

/-- A character that words are made of. -/
def isWordChar (c : Char) : Bool :=
  if c.toNat < 128 then Text.isAsciiLetter c || Text.isAsciiDigit c || c == '_'
  else
    let category := Text.Category.ofChar c
    Text.isAlphabetic c || category.isMark || category == .decimalNumber ||
      category == .connectorPunctuation || c.toNat == 0x200C || c.toNat == 0x200D

/-- A word character, or an ASCII one where only these count. -/
def isWordCharOf (ascii : Bool) (c : Char) : Bool :=
  isWordChar c && (!ascii || c.toNat < 128)

namespace Look

/-- Whether the condition holds between two characters; at an end of the text one of them is
missing. -/
def holds (before after : Option Char) : Look → Bool
  | textStart => before.isNone
  | textEnd => after.isNone
  | lineStart false => before.all (· == '\n')
  | lineEnd false => after.all (· == '\n')
  | lineStart true =>
    before.all fun c => c == '\n' || (c == '\r' && after != some '\n')
  | lineEnd true =>
    after.all fun c => c == '\r' || (c == '\n' && before != some '\r')
  | wordBoundary ascii =>
    before.any (isWordCharOf ascii) != after.any (isWordCharOf ascii)
  | notWordBoundary ascii =>
    before.any (isWordCharOf ascii) == after.any (isWordCharOf ascii)
  | wordStart ascii => !before.any (isWordCharOf ascii) && after.any (isWordCharOf ascii)
  | wordEnd ascii => before.any (isWordCharOf ascii) && !after.any (isWordCharOf ascii)
  | wordStartHalf ascii => !before.any (isWordCharOf ascii)
  | wordEndHalf ascii => !after.any (isWordCharOf ascii)

end Look

namespace Pattern

/-- The places that exactly `n` steps lead to. Where a step leads nowhere new, more of them
do not either. -/
def iterate (step : List Nat → List Nat) : Nat → List Nat → List Nat
  | 0, places => places
  | n + 1, places =>
    let next := step places
    if next == places then places else iterate step n next

/-- The places that at most `n` steps lead to. Of the places in `found`, only those in
`fresh` have not been stepped from. -/
def reach (step : List Nat → List Nat) : Nat → List Nat → List Nat → List Nat
  | 0, _, found => found
  | n + 1, fresh, found =>
    let new := (step fresh).filter fun place => !found.contains place
    if new.isEmpty then found else reach step n new (found ++ new)

/-- The condition holds at a place of a text. -/
def holdsAt (text : Array Char) (condition : Look) (place : Nat) : Bool :=
  condition.holds (if place = 0 then none else text[place - 1]?) text[place]?

/-- The places at which a match that starts at one of some places can end, each once. -/
def ends (text : Array Char) : Pattern → List Nat → List Nat
  | empty, places => places
  | one holds, places => (places.filter fun place => text[place]?.any holds).map (· + 1)
  | look condition, places => places.filter (holdsAt text condition)
  | concat first second, places => ends text second (ends text first places)
  | alternate first second, places =>
    let found := ends text first places
    found ++ (ends text second places).filter fun place => !found.contains place
  | repeated body least most, places =>
    let start := iterate (ends text body) least places
    -- more steps than there are places lead nowhere new
    let bound := match most with
      | some most => min (most - least) (text.size + 1)
      | none => text.size + 1
    reach (ends text body) bound start start

/-- Some stretch of the text matches the pattern. -/
def isMatch (pattern : Pattern) (text : String) : Bool :=
  let chars := text.toList.toArray
  !(pattern.ends chars (List.range (chars.size + 1))).isEmpty

/-- The whole text matches the pattern. -/
def isWholeMatch (pattern : Pattern) (text : List Char) : Bool :=
  let chars := text.toArray
  (pattern.ends chars [0]).contains chars.size

/-- The pattern that a list of patterns makes up, one after the other. -/
def sequence (patterns : List Pattern) : Pattern := patterns.foldr concat empty

/-- Any text of characters of a class. -/
def many (holds : Char → Bool) : Pattern := repeated (one holds) 0 none

/-- Any text. -/
def anything : Pattern := many fun _ => true

/-- A given character. -/
def just (c : Char) : Pattern := one (· == c)

end Pattern

end TerraLint
