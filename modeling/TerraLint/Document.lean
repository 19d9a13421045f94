import TerraLint.Document.Expr

/-!
# Documents

A document is a body: a sequence of attributes and blocks, each on lines of its
own. A block has a type, labels and a body again, or a single attribute between
its braces on one line. Only the shape is kept, with the byte spans of attributes
and blocks, of the labels, and of the templates that an attribute's expression
holds; the expression itself is read and dropped.

Bodies and expressions nest at most `levelLimit` levels deep, counted together.
-/

namespace TerraLint

/-- A label of a block: its text without quotes, where it stands, and whether it has
quotes. -/
structure Label where
  text : String
  span : ByteSpan
  quoted : Bool
  deriving DecidableEq, Repr

/-- An attribute or a block of a document. Of an attribute's expression only the outermost
templates are kept. -/
inductive Structure where
  | attribute (name : String) (span : ByteSpan) (templates : List ByteSpan)
  | block (type : String) (labels : List Label) (span : ByteSpan) (body : List Structure)
  deriving Repr

namespace Document

open TerraLint.Parser

/-- The deepest level at which a body or an expression may stand; the document itself is
level zero. -/
def levelLimit : Nat := 64

/-- Reads the value of an attribute, behind the equals sign, with `levels` to spare. -/
def attributeValue (level : Nat) : Parser Expr := do
  inlineTrivia
  (levels level).expr false

/-- Reads the text of a label, if one begins with the character `first`, which is next. -/
def labelText (first : Option Char) : Parser (Option String) := do
  match first with
  | some '"' => return some (← quotedText)
  | some c => if Text.isNameStart c then return some (← name) else return none
  | none => return none

/-- Reads a label and the inline trivia behind it, if there is one. -/
def label : Parser (Option Label) := do
  let start ← position
  let first ← peek
  match ← labelText first with
  | none => return none
  | some text =>
    let stop ← position
    inlineTrivia
    return some ⟨text, ⟨start, stop⟩, first == some '"'⟩

/-- Reads the end of the line on which a structure stands. -/
def structureEnd : Parser Unit := do
  inlineTrivia
  optionalLineComment
  if !(← atEnd) then lineEnd

/-- Reads an attribute behind its name and the equals sign. The name begins at byte
`start`. -/
def attributeFrom (level start : Nat) (key : String) : Parser Structure := do
  let value ← attributeValue level
  let stop ← position
  return .attribute key ⟨start, stop⟩ value.templates

/-- Reads a block's single attribute, if it has one, and the closing brace on the same
line. -/
def oneLineBody (level : Nat) : Parser (List Structure) := do
  if ← option "\x7d" then return []
  else
    let start ← position
    let key ← name
    inlineTrivia
    char '='
    let found ← attributeFrom level start key
    inlineTrivia
    char '}'
    return [found]

/-- Reads the body of a block from its opening to its closing brace. The attributes of the
body have `level` levels to spare, and `body` reads it where it takes lines of its
own. -/
def blockBody (level : Nat) (body : Parser (List Structure)) : Parser (List Structure) := do
  char '{'
  inlineTrivia
  let text ← rest
  if lineEndLength text != 0 || startsLineComment text then
    optionalLineComment
    lineEnd
    let structures ← body
    char '}'
    return structures
  else oneLineBody level

/-- Reads a block behind its type, which begins at byte `start`. -/
def blockFrom (level start : Nat) (type : String) (body : Parser (List Structure)) :
    Parser Structure := do
  let labels ← collect label
  let structures ← blockBody level body
  let stop ← position
  return .block type labels ⟨start, stop⟩ structures

/-- Whether an attribute of that name is among the structures. -/
def hasAttribute (key : String) (structures : List Structure) : Bool :=
  structures.any fun
    | .attribute other .. => other == key
    | .block .. => false

/-- Reads an attribute or a block behind the structures `found` of the same body. An attribute
may not occur twice. -/
def nextStructure (level : Nat) (body : Parser (List Structure)) (found : List Structure) :
    Parser Structure := do
  let start ← position
  let key ← name
  inlineTrivia
  if ← option "=" then
    require !(hasAttribute key found)
    attributeFrom (level + 1) start key
  else blockFrom level start key body

/-- Reads the attributes and blocks of a body with `n` levels to spare, up to a closing
brace or the end of the text. -/
def body : Nat → Parser (List Structure)
  | 0 => fail
  | n + 1 =>
    loop (fun (found : List Structure) => do
      freeTrivia
      if (← atEnd) || (← peek) == some '}' then return .inr found.reverse
      else
        let next ← nextStructure n (body n) found
        structureEnd
        return .inl (next :: found)) []

/-- The structures of a document, unless the text is not one. -/
def read? (source : String) : Option (List Structure) :=
  readAll (body (levelLimit + 1)) source.toList

/-- The structures of a document, or a message that says that the text is not one. -/
def read (source : String) : Except String (List Structure) :=
  match read? source with
  | some structures => .ok structures
  | none => .error "syntax error"

theorem read_eq_ok_iff {source : String} {structures : List Structure} :
    read source = .ok structures ↔ read? source = some structures := by
  unfold read
  cases read? source <;> simp

end Document

end TerraLint
