import TerraLint.Parser

/-!
# Blanks and comments of a document

Between the parts of a document there may be blanks and comments. How much is
allowed depends on whether a line may end there: *inline* trivia are spaces, tabs
and block comments, and *free* trivia are these together with line ends and line
comments. A line comment runs up to the end of its line; a carriage return inside
it must be part of that line end.
-/

namespace TerraLint.Document

open TerraLint.Parser

/-- Whether a text begins with a line end, and how many characters it has. -/
def lineEndLength : List Char → Nat
  | '\n' :: _ => 1
  | '\r' :: '\n' :: _ => 2
  | _ => 0

/-- Reads a line end. -/
def lineEnd : Parser Unit := do
  let length := lineEndLength (← rest)
  require (length != 0)
  skip length

/-- The number of characters of a block comment, from behind its opening to behind its
end. -/
def blockCommentLength? : Nat → List Char → Option Nat
  | _, [] => none
  | read, '*' :: '/' :: _ => some (read + 2)
  | read, _ :: text => blockCommentLength? (read + 1) text

/-- A line comment stands at the front of the text. -/
def startsLineComment : List Char → Bool
  | '#' :: _ => true
  | '/' :: '/' :: _ => true
  | _ => false

/-- Reads a line comment, up to the end of its line. -/
def lineComment : Parser Unit := do
  let _ ← takeWhile fun c => c != '\n' && c != '\r'
  require ((← atEnd) || lineEndLength (← rest) != 0)

/-- Reads a line comment if there is one. -/
def optionalLineComment : Parser Unit := do
  if startsLineComment (← rest) then lineComment

/-- One piece of inline trivia. -/
def inlinePiece : Parser (Option Unit) := do
  match ← rest with
  | ' ' :: _ | '\t' :: _ => skip 1; return some ()
  | '/' :: '*' :: text =>
    match blockCommentLength? 2 text with
    | some length => skip length; return some ()
    | none => return none
  | _ => return none

/-- One piece of free trivia. -/
def freePiece : Parser (Option Unit) := do
  match ← rest with
  | '\r' :: _ | '\n' :: _ => skip 1; return some ()
  | text =>
    if startsLineComment text then
      lineComment
      return some ()
    else inlinePiece

/-- Passes over spaces, tabs and block comments. -/
def inlineTrivia : Parser Unit := do
  let _ ← collect inlinePiece

/-- Passes over spaces, tabs, line ends and comments. -/
def freeTrivia : Parser Unit := do
  let _ ← collect freePiece

/-- Passes over trivia, of the free sort where line ends are allowed. -/
def trivia (lineEnds : Bool) : Parser Unit :=
  if lineEnds then freeTrivia else inlineTrivia

end TerraLint.Document
