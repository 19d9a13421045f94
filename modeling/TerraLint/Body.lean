import TerraLint.Document
import TerraLint.Token.Lexer

/-!
# Bodies in place

The shape of a document comes with byte spans, and its tokens come with lines and
columns. A body in place has both: the span of each attribute and block begins and
ends with a token. A byte span is snapped to tokens by taking the first token of
content that ends behind its start and the last one that starts before its end.
-/

namespace TerraLint

/-- An attribute, from its name to the end of its expression. -/
structure Attribute where
  name : String
  span : Span
  deriving DecidableEq, Repr

/-- A block. Its header runs from the type to the last label, and its span to the closing
brace. -/
structure Block where
  type : String
  labels : List String
  header : Span
  span : Span
  attributes : List Attribute
  blocks : List Block
  deriving Repr

/-- The content of a file or of a block, in source order. -/
structure Body where
  attributes : List Attribute
  blocks : List Block
  deriving Repr

/-- The content of a block. -/
def Block.body (b : Block) : Body := ⟨b.attributes, b.blocks⟩

/-- The first attribute with a given name. -/
def Body.attribute? (b : Body) (name : String) : Option Attribute :=
  b.attributes.find? fun a => a.name == name

/-- A part of a document that can be left without a place. -/
inductive Part where
  | attribute
  | block
  | blockType
  | blockLabel
  deriving DecidableEq, Repr

/-- The part as messages name it. -/
def Part.describe : Part → String
  | .attribute => "attribute"
  | .block => "block"
  | .blockType => "block type"
  | .blockLabel => "block label"

/-- What a parser says of a file that is not a document. -/
structure SyntaxError where
  file : String
  message : String
  deriving DecidableEq, Repr

/-- Why a file has no body in place. -/
inductive BodyError where
  /-- The text is not a document. -/
  | malformed (e : SyntaxError)
  /-- No token tells where a part stands. -/
  | unlocated (file : String) (part : Part)
  deriving DecidableEq, Repr

/-- The failure as messages show it. -/
def BodyError.message : BodyError → String
  | malformed e => e.file ++ ": " ++ e.message
  | unlocated file part => file ++ ": no source location for " ++ part.describe

namespace Body

/-- The first token of content that ends behind a byte. -/
def firstAt? (tokens : List Token) (byte : Nat) : Option Token :=
  (tokens.dropWhile fun t => t.bytes.stop ≤ byte).find? fun t => !t.kind.isTrivia

/-- The last token of content that starts before a byte. -/
def lastBefore? (tokens : List Token) (byte : Nat) : Option Token :=
  (tokens.takeWhile fun t => t.bytes.start < byte).reverse.find? fun t => !t.kind.isTrivia

/-- The span of the tokens of content inside a byte span. -/
def snap? (tokens : List Token) (span : ByteSpan) : Option Span := do
  let first ← firstAt? tokens span.start
  let last ← lastBefore? tokens span.stop
  return first.span.between last.span

/-- The span of a block's header, or the part of it that has no place. -/
def header (tokens : List Token) (labels : List Label) (span : ByteSpan) : Except Part Span :=
  match firstAt? tokens span.start with
  | none => .error .blockType
  | some first =>
    match labels.getLast? with
    | none => .ok (first.span.between first.span)
    | some label =>
      match firstAt? tokens label.span.start with
      | none => .error .blockLabel
      | some last => .ok (first.span.between last.span)

/-- Puts structures in place, in source order; the first part without a place is
reported. -/
def locate (tokens : List Token) : List Structure → Except Part Body
  | [] => .ok ⟨[], []⟩
  | .attribute name span _ :: rest =>
    match snap? tokens span with
    | none => .error .attribute
    | some place =>
      match locate tokens rest with
      | .error part => .error part
      | .ok body => .ok ⟨⟨name, place⟩ :: body.attributes, body.blocks⟩
  | .block type labels span structures :: rest =>
    match snap? tokens span with
    | none => .error .block
    | some place =>
      match header tokens labels span with
      | .error part => .error part
      | .ok header =>
        match locate tokens structures with
        | .error part => .error part
        | .ok inside =>
          match locate tokens rest with
          | .error part => .error part
          | .ok body =>
            .ok ⟨body.attributes, ⟨type, labels.map Label.text, header, place,
              inside.attributes, inside.blocks⟩ :: body.blocks⟩

/-- The body of a source whose shape `parse` reads, with places taken from a list of
tokens. What `parse` says of a text that it refuses is passed on. -/
def readWith (parse : String → Except String (List Structure)) (tokens : List Token)
    (source : String) : Except BodyError Body :=
  let file := (tokens.getLast?.map fun t => t.span.file).getD ""
  match parse source with
  | .error message => .error (.malformed ⟨file, message⟩)
  | .ok structures => (locate tokens structures).mapError (.unlocated file)

/-- The body of a source, with places taken from a list of tokens. -/
def read (tokens : List Token) (source : String) : Except BodyError Body :=
  readWith Document.read tokens source

end Body

end TerraLint
