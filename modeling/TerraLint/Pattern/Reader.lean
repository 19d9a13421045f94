import TerraLint.Pattern.Class

/-!
# Reading patterns

A pattern is written as alternatives of sequences of parts. A part is a character
or an escape, a class in brackets, a group in parentheses, or one of these with a
repetition behind it. A group may carry switches (`Flags`) in front; switches in
parentheses of their own hold up to the end of the group around them.

Reading goes from left to right. The group being read is a `Group`; the groups
around it wait on a stack. Two bounds keep patterns small: parts nest at most 250
deep, and the automaton of a pattern, whose size the parts add up to
(`Part.cost`), takes at most ten mebibytes.
-/

namespace TerraLint.Pattern

open TerraLint.Parser

/-- A part of a pattern, how deep parts nest in it, and roughly how many bytes its automaton
takes. -/
structure Part where
  pattern : Pattern
  depth : Nat := 0
  cost : Nat := 0

/-- What a sequence is made of: parts, and switches, which match nothing by themselves. -/
inductive Item where
  | part (value : Part)
  | switches

/-- A group that is still being read; the last item and the last alternative come first. -/
structure Group where
  alternatives : List Part := []
  items : List Item := []

namespace Item

/-- The part of an item; switches match the empty text. -/
def toPart : Item → Part
  | part value => value
  | switches => { pattern := .empty }

end Item

namespace Part

/-- The deepest nesting in parts of which there are several. -/
def depthOf (parts : List Part) : Nat :=
  let deepest := (parts.map Part.depth).foldl max 0
  if 2 ≤ parts.length then deepest + 1 else deepest

/-- The sum of the costs. -/
def costOf (parts : List Part) : Nat := parts.foldr (fun part cost => part.cost + cost) 0

/-- One part after the other. -/
def sequence (parts : List Part) : Part where
  pattern :=
    match parts with
    | [] => .empty
    | first :: rest => rest.foldl (fun p q => .concat p q.pattern) first.pattern
  depth := depthOf parts
  cost := costOf parts

/-- One part or another. -/
def choice (parts : List Part) : Part where
  pattern :=
    match parts with
    | [] => .empty
    | first :: rest => rest.foldl (fun p q => .alternate p q.pattern) first.pattern
  depth := depthOf parts
  cost := costOf parts + 48 * parts.length

/-- A part repeated. -/
def repeated (part : Part) (least : Nat) (most : Option Nat) : Part where
  pattern := .repeated part.pattern least most
  depth := part.depth + 1
  cost :=
    match most with
    | some most => if least = most then most * part.cost else most * (part.cost + 48)
    | none => max least 1 * part.cost + 64

end Part

namespace Group

/-- Adds an item to the sequence being read. -/
def push (group : Group) (item : Item) : Group :=
  { group with items := item :: group.items }

/-- The sequence being read. -/
def sequence (group : Group) : Part := .sequence (group.items.reverse.map Item.toPart)

/-- Ends the sequence being read and starts another alternative. -/
def alternate (group : Group) : Group := ⟨group.sequence :: group.alternatives, []⟩

/-- The part that the whole group is. -/
def close (group : Group) : Part :=
  match group.alternatives with
  | [] => group.sequence
  | alternatives => .choice (group.sequence :: alternatives).reverse

/-- Repeats the last part of the sequence; there has to be one. -/
def repeatLast (group : Group) (least : Nat) (most : Option Nat) : Parser Group :=
  match group.items with
  | .part value :: rest =>
    return { group with items := .part (value.repeated least most) :: rest }
  | _ => fail

end Group

/-! ### Groups -/

/-- Whether a character may stand in the name of a group. -/
def isGroupNameChar (first : Bool) (c : Char) : Bool :=
  if first then c == '_' || Text.isAlphabetic c
  else c == '_' || c == '.' || c == '[' || c == ']' || Text.isAlphanumeric c

/-- Reads the name of a group, up to the closing angle. -/
def groupName : Parser String := do
  let first ← satisfy (isGroupNameChar true)
  let others ← takeWhile fun c => c != '>' && isGroupNameChar false c
  char '>'
  return String.ofList (first :: others)

/-- Sets or clears the switch of a letter. -/
def Flags.set (flags : Flags) (letter : Char) (on : Bool) : Option Flags :=
  match letter with
  | 'i' => some { flags with ignoreCase := on }
  | 'm' => some { flags with multiLine := on }
  | 's' => some { flags with dotAll := on }
  | 'U' => some flags
  | 'u' => some { flags with unicode := on }
  | 'R' => some { flags with crlf := on }
  | 'x' => some { flags with verbose := on }
  | _ => none

/-- The switches that letters stand for: those behind a hyphen are cleared. Every letter
occurs once, and so does the hyphen, with a letter behind it. -/
def Flags.update (flags : Flags) (letters : List Char) : Option Flags := do
  guard (letters.eraseDups.length == letters.length)
  guard (letters.getLast? != some '-')
  let positive := letters.takeWhile (· != '-')
  let negative := (letters.drop positive.length).drop 1
  let flags ← positive.foldlM (fun flags c => flags.set c true) flags
  negative.foldlM (fun flags c => flags.set c false) flags

/-- How a parenthesis opens. -/
inductive Opening where
  /-- Switches for what follows. -/
  | switches (flags : Flags)
  /-- A group with its switches, and its name if it has one. -/
  | group (flags : Flags) (name : Option String)

/-- Reads an opening parenthesis with what belongs to it. -/
def opening (flags : Flags) : Parser Opening := do
  let _ ← anyThenGap flags
  for word in ["?=", "?!", "?<=", "?<!"] do
    require !(← startsWith word)
  if (← option "?P<") then return .group flags (some (← groupName))
  else if (← option "?<") then return .group flags (some (← groupName))
  else if (← option "?") then
    let letters ← takeWhile fun c => c != ':' && c != ')'
    let updated ← ofOption (flags.update letters)
    if (← any) == ')' then
      require !letters.isEmpty
      return .switches updated
    else return .group updated none
  else return .group flags none

/-! ### Repetitions -/

/-- Reads a decimal number that fits into 32 bits; blanks may stand around it. -/
def count (flags : Flags) : Parser (Option Nat) := do
  let _ ← takeWhile Text.isBlank
  let digits ← collect do
    match ← peek with
    | some c => if Text.isAsciiDigit c then return some (← anyThenGap flags) else return none
    | none => return none
  let _ ← takeWhile Text.isBlank
  gap flags
  let value := digits.foldl (fun n c => 10 * n + (c.toNat - '0'.toNat)) 0
  require (value < 1 <<< 32)
  return if digits.isEmpty then none else some value

/-- Reads the bounds of a counted repetition in braces. -/
def bounds (flags : Flags) : Parser (Nat × Option Nat) := do
  let _ ← anyThenGap flags
  let least ← ofOption (← count flags)
  let most ← do
    if (← current) == ',' then
      let _ ← anyThenGap flags
      if (← current) == '}' then pure none
      else pure (some (← ofOption (← count flags)))
    else pure (some least)
  char '}'
  require (most.all (least ≤ ·))
  return (least, most)

/-! ### Whole patterns -/

/-- The part that a primitive is. -/
def Primitive.toPart (flags : Flags) : Primitive → Parser Part
  | .literal c byte => do
    require (flags.unicode || !byte || c.toNat < 128)
    return { pattern := .one ((Class.single c).fold flags).holds, cost := 32 * c.utf8Size }
  | .klass set => return { pattern := .one set.holds, cost := set.cost }
  | .look condition => return { pattern := .look condition, cost := 32 }

/-- Reads a part that is neither a group nor in brackets. -/
def primitive (flags : Flags) : Parser Part := do
  match ← current with
  | '\\' => (← escape flags).toPart flags
  | '.' =>
    skip 1
    require flags.unicode
    let holds (c : Char) : Bool :=
      flags.dotAll || (c != '\n' && !(flags.crlf && c == '\r'))
    return { pattern := .one holds, cost := 400 }
  | '^' =>
    skip 1
    Primitive.toPart flags
      (.look (if flags.multiLine then .lineStart flags.crlf else .textStart))
  | '$' =>
    skip 1
    Primitive.toPart flags (.look (if flags.multiLine then .lineEnd flags.crlf else .textEnd))
  | _ => Primitive.toPart flags (.literal (← any) false)

/-- The state of reading: the switches, the group being read, the groups around it with
their switches, and the names of groups. -/
structure Reading where
  flags : Flags := {}
  group : Group := {}
  around : List (Group × Flags) := []
  names : List String := []

/-- Reads one more element of a pattern; at the end of the text all groups must be closed. -/
def step (r : Reading) : Parser (Reading ⊕ Part) := do
  gap r.flags
  match ← peek with
  | none =>
    require r.around.isEmpty
    return .inr r.group.close
  | some '(' =>
    match ← opening r.flags with
    | .switches flags => return .inl { r with flags, group := r.group.push .switches }
    | .group flags name =>
      require (name.all fun n => !r.names.contains n)
      return .inl ⟨flags, {}, (r.group, r.flags) :: r.around, name.toList ++ r.names⟩
  | some ')' =>
    skip 1
    match r.around with
    | (group, flags) :: around =>
      let inner := r.group.close
      let part := { inner with depth := inner.depth + 1 }
      return .inl { r with flags, group := group.push (.part part), around }
    | [] => fail
  | some '|' =>
    skip 1
    return .inl { r with group := r.group.alternate }
  | some '[' =>
    let (set, depth) ← bracketClass r.flags
    let part := { pattern := .one set.holds, depth, cost := set.cost }
    return .inl { r with group := r.group.push (.part part) }
  | some '{' =>
    let (least, most) ← bounds r.flags
    gap r.flags
    let _ ← option "?"
    return .inl { r with group := ← r.group.repeatLast least most }
  | some c =>
    if c == '?' || c == '*' || c == '+' then
      skip 1
      let _ ← option "?"
      let least := if c == '+' then 1 else 0
      let most := if c == '?' then some 1 else none
      return .inl { r with group := ← r.group.repeatLast least most }
    else
      return .inl { r with group := r.group.push (.part (← primitive r.flags)) }

/-- The deepest nesting of parts in a pattern. -/
def maxDepth : Nat := 250

/-- The most bytes that the automaton of a pattern may take. -/
def maxCost : Nat := 10 <<< 20

/-- The pattern that a text describes. -/
def ofText? (text : String) : Option Pattern := do
  let part ← readAll (loop step {}) text.toList
  guard (part.depth ≤ maxDepth)
  guard (part.cost ≤ maxCost)
  return part.pattern

end TerraLint.Pattern
