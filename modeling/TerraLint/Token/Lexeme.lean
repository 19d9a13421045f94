import TerraLint.Text.Alphabetic
import TerraLint.Text.Blank
import TerraLint.Token.Template

/-!
# Lexemes

A source text is cut into lexemes: the texts of its tokens, and the blanks between
them. The cut is made from left to right, and the character at the front of the
remaining text decides, with what follows it, how far the next lexeme reaches
(`Lexeme.first`). Since a lexeme is a piece of the text, nothing is lost: the
lexemes of a text, written one after the other, are the text again.
-/

namespace TerraLint

/-- A piece of a source text: the text of a token of some kind, or a blank. -/
structure Lexeme where
  kind : Option Kind
  text : List Char
  deriving DecidableEq, Repr

namespace Lexeme

/-! ### How far a lexeme reaches -/

/-- The number of characters up to and including the next line feed. -/
def lineLength (text : List Char) : Nat :=
  let line := text.takeWhile (· != '\n')
  if line.length < text.length then line.length + 1 else line.length

/-- The number of characters, on top of `read`, up to and including the end of a block
comment. -/
def closeComment (read : Nat) : List Char → Option Nat
  | [] => none
  | '*' :: '/' :: _ => some (read + 2)
  | _ :: rest => closeComment (read + 1) rest

/-- The number of characters, on top of `read`, up to the end of the first line that
holds nothing but blanks and the marker. The characters of the line in hand that have
been read are in `line`, the last one first. -/
def closeHeredoc (marker : List Char) (read : Nat) (line : List Char) :
    List Char → Option Nat
  | [] => if Text.trim line.reverse = marker then some read else none
  | c :: rest =>
    if c = '\n' then
      if Text.trim line.reverse = marker then some read
      else closeHeredoc marker (read + 1) [] rest
    else closeHeredoc marker (read + 1) (c :: line) rest

/-- The marker of a heredoc, and how many characters stand before it, when the text
after the first angle bracket introduces one. -/
def heredocMarker? : List Char → Option (Nat × List Char)
  | '<' :: '-' :: rest =>
    if rest.head?.any Text.isIdentifierStart then
      some (2, rest.takeWhile Text.isIdentifierContinue)
    else none
  | '<' :: rest =>
    if rest.head?.any Text.isIdentifierStart then
      some (1, rest.takeWhile Text.isIdentifierContinue)
    else none
  | _ => none

/-- The length of the heredoc in a text whose marker has been found: the opening line
is passed over, and then the closing line is looked for. -/
def heredocLength? (marker text : List Char) : Option Nat :=
  let opening := lineLength text
  if (text.take opening).getLast? = some '\n' then
    closeHeredoc marker opening [] (text.drop opening)
  else none

/-- The number of digits at the front of a text. -/
def digitCount (text : List Char) : Nat :=
  (text.takeWhile Text.isAsciiDigit).length

/-- The length of a fraction at the front of a text: a point and at least one digit. -/
def fractionLength : List Char → Nat
  | '.' :: rest => if digitCount rest = 0 then 0 else 1 + digitCount rest
  | _ => 0

/-- The length of a sign at the front of a text. -/
def signLength : List Char → Nat
  | '+' :: _ => 1
  | '-' :: _ => 1
  | _ => 0

/-- The length of an exponent at the front of a text: the letter, a sign if there is
one, and at least one digit. -/
def exponentLength : List Char → Nat
  | c :: rest =>
    if c = 'e' ∨ c = 'E' then
      let digits := digitCount (rest.drop (signLength rest))
      if digits = 0 then 0 else 1 + signLength rest + digits
    else 0
  | [] => 0

/-- The number of characters of a number literal that follow its first digit. -/
def numberLength (rest : List Char) : Nat :=
  let whole := digitCount rest
  let fraction := fractionLength (rest.drop whole)
  whole + fraction + exponentLength (rest.drop (whole + fraction))

/-! ### The first lexeme of a text -/

/-- The first lexeme of the text `c :: rest`: its kind, if it is no blank, and how many
characters of `rest` belong to it. -/
def first (c : Char) (rest : List Char) : Except Unterminated (Option Kind × Nat) :=
  match c with
  | ' ' | '\t' => .ok (none, 0)
  | '\r' => if rest.head? = some '\n' then .ok (some .newline, 1) else .ok (none, 0)
  | '\n' => .ok (some .newline, 0)
  | '#' => .ok (some .comment, lineLength rest)
  | '/' =>
    match rest with
    | '/' :: _ => .ok (some .comment, lineLength rest)
    | '*' :: body =>
      match closeComment 1 body with
      | some length => .ok (some .comment, length)
      | none => .error ⟨.blockComment, 0⟩
    | _ => .ok (some .other, 0)
  | '{' => .ok (some .openBrace, 0)
  | '}' => .ok (some .closeBrace, 0)
  | '[' => .ok (some .openBracket, 0)
  | ']' => .ok (some .closeBracket, 0)
  | '(' => .ok (some .openParen, 0)
  | ')' => .ok (some .closeParen, 0)
  | '=' =>
    if rest.head? = some '=' ∨ rest.head? = some '>' then .ok (some .other, 1)
    else .ok (some .equals, 0)
  | '"' =>
    match Token.closeTemplate 1 (.quote 0) [] rest with
    | .ok length => .ok (some .quoted, length - 1)
    | .error u => .error u
  | c =>
    match (if c = '<' then heredocMarker? rest else none) with
    | some (before, marker) =>
      match heredocLength? marker (rest.drop (before + marker.length)) with
      | some length => .ok (some .heredoc, before + marker.length + length)
      | none => .error ⟨.heredoc, 0⟩
    | none =>
      if Text.isAsciiDigit c then .ok (some .number, numberLength rest)
      else if Text.isIdentifierStart c then
        .ok (some .identifier, (rest.takeWhile Text.isIdentifierContinue).length)
      else .ok (some .other, 0)

/-! ### All lexemes of a text -/

/-- The lexemes of a text of which the first `skip` characters belong to the lexeme
before, the whole standing `offset` characters into the source. -/
def splitFrom (offset skip : Nat) : List Char → Except Unterminated (List Lexeme)
  | [] => .ok []
  | c :: rest =>
    match skip with
    | skip + 1 => splitFrom (offset + 1) skip rest
    | 0 =>
      match first c rest with
      | .error u => .error (u.shift offset)
      | .ok (kind, extra) =>
        match splitFrom (offset + 1) extra rest with
        | .error u => .error u
        | .ok more => .ok (⟨kind, c :: rest.take extra⟩ :: more)

/-- The lexemes of a source text, in order. -/
def split (source : List Char) : Except Unterminated (List Lexeme) :=
  splitFrom 0 0 source

end Lexeme

end TerraLint
