import TerraLint.Token.Lexeme

/-!
# Reading tokens

The tokens of a file are its lexemes without the blanks, each placed where it
stands, followed by one token for the end of the file. The place of a lexeme is
found by walking over the text in front of it.
-/

namespace TerraLint

/-- A construct that a file opens and never closes, with the place where it is opened. -/
structure LexError where
  file : String
  what : Construct
  position : Position
  deriving DecidableEq, Repr

/-- The failure as messages show it. -/
def LexError.message (e : LexError) : String :=
  e.file ++ ":" ++ toString e.position.line ++ ":" ++ toString e.position.column ++
    ": unterminated " ++ e.what.describe

namespace Token

/-- The token of a kind between two positions of a file. -/
def ofEnds (file : String) (kind : Kind) (start stop : Position) : Token :=
  ⟨kind, ⟨start.byte, stop.byte⟩, ⟨file, start, stop⟩⟩

/-- The tokens of a run of lexemes that begins at position `p`, and the end of the file
behind them. -/
def place (file : String) (p : Position) : List Lexeme → List Token
  | [] => [ofEnds file .endOfFile p p]
  | lexeme :: rest =>
    let q := p.advance lexeme.text
    match lexeme.kind with
    | none => place file q rest
    | some kind => ofEnds file kind p q :: place file q rest

/-- The tokens of a source text. -/
def lex (file source : String) : Except LexError (List Token) :=
  match Lexeme.split source.toList with
  | .ok lexemes => .ok (place file .start lexemes)
  | .error u => .error ⟨file, u.what, Position.start.advance (source.toList.take u.offset)⟩

end Token

end TerraLint
