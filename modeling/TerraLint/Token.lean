import TerraLint.Source.Span

/-!
# Tokens

A configuration file is a sequence of tokens. The kinds are coarse: what matters
for style is where brackets open and close, where lines break, and where the
comments are, so a quoted template or a heredoc is one token whatever it holds,
and every operator is of one kind.
-/

namespace TerraLint

/-- The kind of a token. -/
inductive Kind where
  | openBrace
  | closeBrace
  | openBracket
  | closeBracket
  | openParen
  | closeParen
  | equals
  /-- A line comment, with the line feed that ends it, or a block comment. -/
  | comment
  /-- A line break outside of any comment. -/
  | newline
  | identifier
  /-- A quoted template, from quote to quote. -/
  | quoted
  /-- A heredoc template, from its introducer to its closing marker. -/
  | heredoc
  | number
  /-- Any other operator or punctuation. -/
  | other
  /-- The end of the file, which is always the last token. -/
  | endOfFile
  deriving DecidableEq, Repr

namespace Kind

/-- All kinds, in the order of their declaration. -/
def all : List Kind :=
  [openBrace, closeBrace, openBracket, closeBracket, openParen, closeParen, equals, comment,
    newline, identifier, quoted, heredoc, number, other, endOfFile]

/-- The kinds that open a bracketed group. -/
def isOpen : Kind → Bool
  | openBrace | openBracket | openParen => true
  | _ => false

/-- The kinds that close a bracketed group. -/
def isClose : Kind → Bool
  | closeBrace | closeBracket | closeParen => true
  | _ => false

/-- The kinds that carry no content: line breaks, comments and the end of the file. -/
def isTrivia : Kind → Bool
  | newline | comment | endOfFile => true
  | _ => false

end Kind

/-- A token: its kind, the bytes that it covers, and the stretch of the file that these
bytes are. -/
structure Token where
  kind : Kind
  bytes : ByteSpan
  span : Span
  deriving DecidableEq, Repr

/-- The text between two byte offsets, when both fall between characters of the text. -/
def sliceBytes? : List Char → Nat → Nat → Option (List Char)
  | _, 0, 0 => some []
  | [], _, _ => none
  | c :: text, 0, stop =>
    if c.utf8Size ≤ stop then (sliceBytes? text 0 (stop - c.utf8Size)).map (c :: ·) else none
  | c :: text, start, stop =>
    if c.utf8Size ≤ start then sliceBytes? text (start - c.utf8Size) (stop - c.utf8Size)
    else none

namespace Token

/-- The text of a token in a source; empty when the source has no such bytes. -/
def text (t : Token) (source : String) : String :=
  if t.bytes.start ≤ t.bytes.stop then
    String.ofList ((sliceBytes? source.toList t.bytes.start t.bytes.stop).getD [])
  else ""

end Token

end TerraLint
