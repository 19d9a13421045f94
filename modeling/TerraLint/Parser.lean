import TerraLint.Source.Position

/-!
# Parsers

A parser reads from the front of a text and either fails or gives a value and the
text that is left. Beside the text that is left, the input knows at which byte of
the whole text it starts, so that a parser can say where the things it reads
begin and end. There is no error value: the grammars read with these parsers are
deterministic, and all that is asked of a text that they refuse is that they
refuse it.

Repetition is one combinator, `Parser.loop`: a step takes a state and answers with
a next state or with a result. It is total because a loop on a text of `n`
characters makes at most `n + 1` steps; a step that goes on reads something.
-/

namespace TerraLint

/-- What is left to read: the byte at which it starts, and the text. -/
structure Input where
  byte : Nat
  text : List Char
  deriving DecidableEq, Repr

/-- A parser of values of type `α`. -/
abbrev Parser (α : Type) := StateT Input Option α

namespace Parser

/-- The parser that refuses every text. -/
def fail {α : Type} : Parser α := fun _ => none

/-- What is left to read, without reading it. -/
def rest : Parser (List Char) := fun input => some (input.text, input)

/-- The byte at which the text that is left starts. -/
def position : Parser Nat := fun input => some (input.byte, input)

/-- The next character, without reading it. -/
def peek : Parser (Option Char) := fun input => some (input.text.head?, input)

/-- Goes on only when the condition holds. -/
def require (condition : Bool) : Parser Unit :=
  if condition then pure () else fail

/-- The value of an option, or failure. -/
def ofOption {α : Type} : Option α → Parser α
  | some a => pure a
  | none => fail

/-- Reads one character of a class. -/
def satisfy (accepts : Char → Bool) : Parser Char := fun input =>
  match input.text with
  | c :: text => if accepts c then some (c, ⟨input.byte + c.utf8Size, text⟩) else none
  | [] => none

/-- Reads one character, whatever it is. -/
def any : Parser Char := satisfy fun _ => true

/-- Reads a given character. -/
def char (c : Char) : Parser Unit := do
  let _ ← satisfy (· == c)

/-- Reads the longest stretch of characters of a class. -/
def takeWhile (accepts : Char → Bool) : Parser (List Char) := fun input =>
  let taken := input.text.takeWhile accepts
  some (taken, ⟨input.byte + byteLength taken, input.text.drop taken.length⟩)

/-- Reads a given number of characters. -/
def skip : Nat → Parser Unit
  | 0 => pure ()
  | n + 1 => do
    let _ ← any
    skip n

/-- Whether the text that is left begins with a given word. -/
def startsWith (word : String) : Parser Bool := do
  return word.toList.isPrefixOf (← rest)

/-- Reads a given word. -/
def word (w : String) : Parser Unit := do
  require (← startsWith w)
  skip w.length

/-- Reads a given word if the text that is left begins with it, and says whether it did. -/
def option (w : String) : Parser Bool := do
  if ← startsWith w then
    skip w.length
    return true
  else return false

/-- The end of the text. -/
def atEnd : Parser Bool := do
  return (← rest).isEmpty

/-- Runs a parser, and goes back to where it started if it gives no value. -/
def attempt {α : Type} (p : Parser (Option α)) : Parser (Option α) := fun input =>
  match p input with
  | some (some a, left) => some (some a, left)
  | some (none, _) => some (none, input)
  | none => none

/-- The steps of a loop: one, and one more for each character of `fuel`. -/
def loopFor {σ α : Type} (step : σ → Parser (σ ⊕ α)) (fuel : List Char) (s : σ) : Parser α := do
  match ← step s with
  | .inr a => pure a
  | .inl s =>
    match fuel with
    | [] => fail
    | _ :: fuel => loopFor step fuel s

/-- Repeats a step until it gives a result. -/
def loop {σ α : Type} (step : σ → Parser (σ ⊕ α)) (s : σ) : Parser α := fun input =>
  loopFor step input.text s input

/-- Repeats a parser until it answers `none`, and collects what it gave. -/
def collect {α : Type} (item : Parser (Option α)) : Parser (List α) :=
  loop (fun (found : List α) => do
    match ← item with
    | some a => return .inl (a :: found)
    | none => return .inr found.reverse) []

/-- Reads a whole text; nothing may be left over. -/
def readAll {α : Type} (p : Parser α) (text : List Char) : Option α :=
  match p ⟨0, text⟩ with
  | some (a, left) => if left.text.isEmpty then some a else none
  | none => none

end Parser

end TerraLint
