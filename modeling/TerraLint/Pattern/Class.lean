import TerraLint.Parser
import TerraLint.Pattern
import TerraLint.Text.Folding
import TerraLint.Text.Property

/-!
# Character classes of patterns

The notation for patterns has many ways to name a class of characters: a character
by itself, by an escape or by its code point, the classes of digits, blanks and
word characters, properties of the standard, and brackets, which combine classes
by union, intersection and difference and may nest. This module reads them.

A class that is read where case is ignored holds, with each character, all those
equal to it up to case. Away from the standard (`unicode` off) a pattern is about
ASCII: the short classes hold ASCII characters only, and a class with a member
beyond ASCII is refused.
-/

namespace TerraLint.Pattern

open TerraLint.Parser

/-- The switches of the pattern notation. -/
structure Flags where
  ignoreCase : Bool := false
  multiLine : Bool := false
  dotAll : Bool := false
  crlf : Bool := false
  unicode : Bool := true
  /-- Blanks and comments in the pattern are passed over. -/
  verbose : Bool := false
  deriving DecidableEq, Repr

/-- A class of characters, and roughly how many bytes its automaton takes. -/
structure Class where
  holds : Char → Bool
  cost : Nat

namespace Class

/-- The characters from `lo` to `hi`. -/
def range (lo hi : Char) : Class :=
  ⟨fun c => lo ≤ c && c ≤ hi, if hi.toNat < 128 then 40 else 300⟩

/-- A single character. -/
def single (c : Char) : Class := range c c

/-- No character. -/
def none : Class := ⟨fun _ => false, 0⟩

/-- The characters of either class. -/
def union (a b : Class) : Class := ⟨fun c => a.holds c || b.holds c, a.cost + b.cost⟩

/-- The characters that are not in the class. -/
def complement (a : Class) : Class := ⟨fun c => !a.holds c, a.cost + 400⟩

/-- The complement, if it is asked for. -/
def complementIf (negated : Bool) (a : Class) : Class := if negated then a.complement else a

/-- The class closed under equality up to case. -/
def fold (flags : Flags) (a : Class) : Class :=
  if flags.ignoreCase then
    if flags.unicode then ⟨fun c => (Text.orbit c).any a.holds, a.cost + 80⟩
    else ⟨fun c => a.holds c || a.holds c.toLower || a.holds c.toUpper, a.cost + 80⟩
  else a

/-- The class has a member among the code points from 128 to 255. -/
def beyondAscii (a : Class) : Bool :=
  (List.range 128).any fun k => a.holds (Char.ofNat (128 + k))

/-- Goes on with a class that patterns with these switches may use. -/
def admitted (flags : Flags) (a : Class) : Parser Class := do
  require (flags.unicode || !a.beyondAscii)
  return a

end Class

/-- One part of a pattern that takes no operand. -/
inductive Primitive where
  /-- A character; `byte` when it was given as a byte. -/
  | literal (c : Char) (byte : Bool)
  | klass (set : Class)
  | look (condition : Look)

/-! ### Blanks in patterns -/

/-- One blank or comment in a pattern. -/
def gapPiece : Parser (Option Unit) := do
  match ← peek with
  | some c =>
    if Text.isBlank c then
      skip 1
      return some ()
    else if c == '#' then
      let _ ← takeWhile (· != '\n')
      let _ ← option "\n"
      return some ()
    else return none
  | none => return none

/-- Passes over blanks and comments where they do not count. -/
def gap (flags : Flags) : Parser Unit := do
  if flags.verbose then
    let _ ← collect gapPiece

/-- Reads one character, and the gap behind it. -/
def anyThenGap (flags : Flags) : Parser Char := do
  let c ← any
  gap flags
  return c

/-- The next character, which must exist. -/
def current : Parser Char := do ofOption (← peek)

/-! ### Escapes -/

/-- The characters that have a meaning of their own in patterns. -/
def isMeta (c : Char) : Bool :=
  "\\.+*?()|[]\x7b\x7d^$#&-~".toList.contains c

/-- A character that stands for itself behind a backslash. -/
def isEscapable (c : Char) : Bool :=
  isMeta c || (c.toNat < 128 && !Text.isAsciiLetter c && !Text.isAsciiDigit c &&
    c != '<' && c != '>')

/-- Reads a fixed number of hexadecimal digits. -/
def hexDigits (flags : Flags) (count : Nat) : Parser Char := do
  let shown ← (List.replicate count ()).mapM fun _ => anyThenGap flags
  ofOption ((Text.hexValue? shown).bind Text.scalar?)

/-- Reads hexadecimal digits up to a closing brace; the opening one has been read. -/
def hexBraces (flags : Flags) : Parser Char := do
  let shown ← collect do
    let c ← current
    if c == '}' then return none
    else return some (← anyThenGap flags)
  let _ ← anyThenGap flags
  require !shown.isEmpty
  let value ← ofOption (Text.hexValue? shown)
  ofOption (Text.scalar? value)

/-- Reads the code point of an escape, behind its letter. -/
def codePoint (flags : Flags) (digits : Nat) : Parser Primitive := do
  let c ← current
  if c == '{' then
    let _ ← anyThenGap flags
    return .literal (← hexBraces flags) false
  else
    let c ← hexDigits flags digits
    return .literal c (digits == 2)

/-- The text split at the first occurrence of a separator. -/
def splitFirst? (separator : String) (text : String) : Option (String × String) :=
  match text.splitOn separator with
  | first :: second :: rest => some (first, separator.intercalate (second :: rest))
  | _ => none

/-- Reads the name of a property, behind the letter of its escape. -/
def propertyClass (flags : Flags) (negated : Bool) : Parser Class := do
  let first ← current
  let (holds, negated) ← do
    if first == '{' then
      let _ ← anyThenGap flags
      let shown ← collect do
        let c ← current
        if c == '}' then return none
        else return some (← anyThenGap flags)
      skip 1
      let name := String.ofList shown
      match splitFirst? "!=" name with
      | some (property, value) =>
        pure (← ofOption (Text.Property.valued? property value), !negated)
      | none =>
        match (splitFirst? ":" name).or (splitFirst? "=" name) with
        | some (property, value) =>
          pure (← ofOption (Text.Property.valued? property value), negated)
        | none => pure (← ofOption (Text.Property.named? name), negated)
    else
      require (first != '\\')
      let _ ← anyThenGap flags
      pure (← ofOption (Text.Property.named? first.toString), negated)
  require flags.unicode
  return ((Class.mk holds 20000).fold flags).complementIf negated

/-- The classes of digits, blanks and word characters, by their letter. -/
def shortClass (flags : Flags) (letter : Char) : Class :=
  match letter with
  | 'd' =>
    if flags.unicode then ⟨fun c => Text.Category.ofChar c == .decimalNumber, 4000⟩
    else ⟨Text.isAsciiDigit, 40⟩
  | 's' =>
    if flags.unicode then ⟨Text.isBlank, 800⟩
    else ⟨fun c => Text.isBlank c && c.toNat < 128, 80⟩
  | _ => if flags.unicode then ⟨isWordChar, 50000⟩ else ⟨isWordCharOf true, 160⟩

/-- Reads a named kind of word boundary in braces, if there is one. -/
def namedBoundary (flags : Flags) : Parser (Option Look) := attempt do
  if (← peek) == some '{' then
    let _ ← anyThenGap flags
    let isNameChar (c : Char) : Bool := Text.isAsciiLetter c || c == '-'
    if isNameChar (← current) then
      let shown ← collect do
        match ← peek with
        | some c => if isNameChar c then return some (← anyThenGap flags) else return none
        | none => return none
      char '}'
      match String.ofList shown with
      | "start" => return some (.wordStart !flags.unicode)
      | "end" => return some (.wordEnd !flags.unicode)
      | "start-half" => return some (.wordStartHalf !flags.unicode)
      | "end-half" => return some (.wordEndHalf !flags.unicode)
      | _ => fail
    else return none
  else return none

/-- Reads an escape, from its backslash on. -/
def escape (flags : Flags) : Parser Primitive := do
  char '\\'
  match ← current with
  | 'x' => let _ ← anyThenGap flags; codePoint flags 2
  | 'u' => let _ ← anyThenGap flags; codePoint flags 4
  | 'U' => let _ ← anyThenGap flags; codePoint flags 8
  | 'p' => let _ ← anyThenGap flags; return .klass (← propertyClass flags false)
  | 'P' => let _ ← anyThenGap flags; return .klass (← propertyClass flags true)
  | 'd' => skip 1; return .klass (shortClass flags 'd')
  | 's' => skip 1; return .klass (shortClass flags 's')
  | 'w' => skip 1; return .klass (shortClass flags 'w')
  | 'D' => skip 1; return .klass (← (shortClass flags 'd').complement.admitted flags)
  | 'S' => skip 1; return .klass (← (shortClass flags 's').complement.admitted flags)
  | 'W' => skip 1; return .klass (← (shortClass flags 'w').complement.admitted flags)
  | 'a' => skip 1; return .literal '\x07' false
  | 'f' => skip 1; return .literal '\x0c' false
  | 't' => skip 1; return .literal '\t' false
  | 'n' => skip 1; return .literal '\n' false
  | 'r' => skip 1; return .literal '\r' false
  | 'v' => skip 1; return .literal '\x0b' false
  | 'A' => skip 1; return .look .textStart
  | 'z' => skip 1; return .look .textEnd
  | 'B' => skip 1; return .look (.notWordBoundary !flags.unicode)
  | '<' => skip 1; return .look (.wordStart !flags.unicode)
  | '>' => skip 1; return .look (.wordEnd !flags.unicode)
  | 'b' =>
    skip 1
    match ← namedBoundary flags with
    | some condition => return .look condition
    | none => return .look (.wordBoundary !flags.unicode)
  | c =>
    require (isEscapable c)
    skip 1
    return .literal c false

/-! ### Brackets -/

/-- The named ASCII classes. -/
def asciiClass? (name : String) : Option Class :=
  let some' (holds : Char → Bool) : Option Class := some ⟨fun c => c.toNat < 128 && holds c, 120⟩
  match name with
  | "alnum" => some' fun c => Text.isAsciiLetter c || Text.isAsciiDigit c
  | "alpha" => some' Text.isAsciiLetter
  | "ascii" => some' fun _ => true
  | "blank" => some' fun c => c == ' ' || c == '\t'
  | "cntrl" => some' fun c => c.toNat < 32 || c.toNat == 127
  | "digit" => some' Text.isAsciiDigit
  | "graph" => some' fun c => 33 ≤ c.toNat && c.toNat ≤ 126
  | "lower" => some' fun c => 'a' ≤ c && c ≤ 'z'
  | "print" => some' fun c => 32 ≤ c.toNat && c.toNat ≤ 126
  | "punct" => some' fun c =>
    33 ≤ c.toNat && c.toNat ≤ 126 && !Text.isAsciiLetter c && !Text.isAsciiDigit c
  | "space" => some' Text.isBlank
  | "upper" => some' fun c => 'A' ≤ c && c ≤ 'Z'
  | "word" => some' fun c => Text.isAsciiLetter c || Text.isAsciiDigit c || c == '_'
  | "xdigit" => some' fun c => (Text.hexDigit? c).isSome
  | _ => Option.none

/-- The named ASCII class at the front of a text such as `[:alpha:]`, and the number of its
characters. -/
def namedClass? (flags : Flags) : List Char → Option (Class × Nat)
  | '[' :: ':' :: rest =>
    let negated := rest.head? == some '^'
    let rest := if negated then rest.drop 1 else rest
    let name := rest.takeWhile (· != ':')
    if [':', ']'].isPrefixOf (rest.drop name.length) then
      (asciiClass? (String.ofList name)).map fun set =>
        ((set.fold flags).complementIf negated, name.length + (if negated then 5 else 4))
    else Option.none
  | _ => Option.none

/-- A way to combine two classes. -/
inductive SetOperator where
  | intersection
  | difference
  | symmetricDifference
  deriving DecidableEq, Repr

/-- The combination of two classes. -/
def SetOperator.apply (operator : SetOperator) (a b : Class) : Class :=
  match operator with
  | intersection => ⟨fun c => a.holds c && b.holds c, a.cost + b.cost⟩
  | difference => ⟨fun c => a.holds c && !b.holds c, a.cost + b.cost⟩
  | symmetricDifference => ⟨fun c => a.holds c != b.holds c, a.cost + b.cost⟩

/-- Brackets that are still open: what has been read since the last operator, and the class
to the left of that operator. -/
structure Bracket where
  negated : Bool
  members : Class
  left : Option (Class × SetOperator)

namespace Bracket

/-- Adds members. -/
def add (b : Bracket) (set : Class) : Bracket := { b with members := b.members.union set }

/-- The class read so far, with the pending operator applied. -/
def value (b : Bracket) : Class :=
  match b.left with
  | some (left, operator) => operator.apply left b.members
  | Option.none => b.members

/-- Goes on behind an operator. -/
def operate (b : Bracket) (operator : SetOperator) : Bracket :=
  { b with members := .none, left := some (b.value, operator) }

end Bracket

/-- Reads an opening bracket, with the hyphens and the bracket that stand for themselves
right behind it. -/
def openBracket (flags : Flags) : Parser Bracket := do
  let _ ← anyThenGap flags
  let negated ← do
    if (← current) == '^' then
      let _ ← anyThenGap flags
      pure true
    else pure false
  let hyphens ← collect do
    if (← current) == '-' then return some (← anyThenGap flags) else return none
  let members := if hyphens.isEmpty then Class.none else .single '-'
  if hyphens.isEmpty && (← current) == ']' then
    let _ ← anyThenGap flags
    let _ ← current
    return ⟨negated, .single ']', Option.none⟩
  else
    return ⟨negated, members, Option.none⟩

/-- Reads one member of a bracket, which may be one end of a range. -/
def bracketMember (flags : Flags) : Parser Primitive := do
  if (← current) == '\\' then escape flags
  else return .literal (← any) false

/-- The class of a member. -/
def memberClass (flags : Flags) : Primitive → Parser Class
  | .literal c byte => do
    require (flags.unicode || byte || c.toNat < 128)
    return (Class.single c).fold flags
  | .klass set => return set
  | .look _ => fail

/-- The next character that counts behind the current one. -/
def peekBehind (flags : Flags) : Parser (Option Char) := fun input =>
  match (do let _ ← anyThenGap flags; peek : Parser (Option Char)) input with
  | some (c, _) => some (c, input)
  | Option.none => Option.none

/-- Reads a member or a range of a bracket. -/
def bracketItem (flags : Flags) : Parser Class := do
  let first ← bracketMember flags
  gap flags
  let next ← current
  let behind ← peekBehind flags
  if next != '-' || behind == some ']' || behind == some '-' then memberClass flags first
  else
    let _ ← anyThenGap flags
    let _ ← current
    match first, ← bracketMember flags with
    | .literal lo loByte, .literal hi hiByte =>
      require (lo ≤ hi)
      require (flags.unicode || ((loByte || lo.toNat < 128) && (hiByte || hi.toNat < 128)))
      return (Class.range lo hi).fold flags
    | _, _ => fail

/-- Reads a class in brackets. Brackets inside are kept on a stack, and the deepest nesting
is counted. -/
def bracketClass (flags : Flags) : Parser (Class × Nat) := do
  let first ← openBracket flags
  loop (fun ((bracket, outer, depth) : Bracket × List Bracket × Nat) => do
    gap flags
    let text ← rest
    match text with
    | [] => fail
    | '[' :: _ =>
      match namedClass? flags text with
      | some (set, length) =>
        skip length
        return .inl (bracket.add (← set.admitted flags), outer, depth)
      | Option.none =>
        return .inl (← openBracket flags, bracket :: outer, max depth (outer.length + 2))
    | ']' :: _ =>
      skip 1
      let set ← (bracket.value.complementIf bracket.negated).admitted flags
      match outer with
      | [] => return .inr (set, depth)
      | around :: outer => return .inl (around.add set, outer, depth)
    | '&' :: '&' :: _ => skip 2; return .inl (bracket.operate .intersection, outer, depth)
    | '-' :: '-' :: _ => skip 2; return .inl (bracket.operate .difference, outer, depth)
    | '~' :: '~' :: _ => skip 2; return .inl (bracket.operate .symmetricDifference, outer, depth)
    | _ => return .inl (bracket.add (← bracketItem flags), outer, depth)) (first, [], 1)

end TerraLint.Pattern
