import TerraLint.Document.Literal
import TerraLint.Source.Span

/-!
# Expressions

The linter never evaluates an expression; it asks only whether a text is one, and
two things besides. An object may not give the same key twice, and a key is an
expression, so expressions are compared: an expression is kept as the symbols it
is written with, blanks and comments left out and literals reduced to their
meaning. And operators may not nest without bound, so an expression knows the
largest number of binary operators on a way down into it. Besides, it knows where
its templates stand, quoted ones and heredocs, those inside other templates left
out.

The grammar is deterministic: the next one or two characters say what follows.
It is written with open recursion. Whatever stands inside brackets, behind a
unary operator or in a branch of a conditional is read by the parsers of the next
level (`Inner`), which are handed in, and `levels` ties the knot for a given
number of levels.

## Line ends

Inside parentheses, brackets, argument lists and interpolations a line may end
between any two symbols; elsewhere an expression ends with its line. A list, an
object comprehension or a call as the first term of an expression lifts that
restriction for the operators that follow it.
-/

namespace TerraLint.Document

open TerraLint.Parser

/-! ### Expressions as symbols -/

/-- A symbol of an expression. -/
inductive Symbol where
  | name (text : String)
  | number (negative : Bool) (magnitude : Magnitude)
  /-- Plain text of a template. -/
  | text (meaning : String)
  /-- An operator or a bracket. -/
  | mark (text : String)
  deriving DecidableEq, Repr

/-- An expression: its symbols, the largest number of binary operators on a way down into
it, and its outermost templates. -/
structure Expr where
  symbols : List Symbol
  operators : Nat
  templates : List ByteSpan
  deriving DecidableEq, Repr

namespace Expr

/-- An expression of a single symbol. -/
def leaf (s : Symbol) : Expr := ⟨[s], 0, []⟩

/-- A mark, which is no expression of its own but a part of one. -/
def mark (text : String) : Expr := leaf (.mark text)

/-- Parts side by side: neither is an operand of the other. -/
def join (parts : List Expr) : Expr :=
  ⟨parts.flatMap symbols, (parts.map operators).foldl max 0, parts.flatMap templates⟩

/-- Parts side by side that make up a template: what is inside is no outermost template. -/
def template (span : ByteSpan) (parts : List Expr) : Expr :=
  { join parts with templates := [span] }

end Expr

/-- The largest number of binary operators on a way down into an expression. -/
def operatorLimit : Nat := 128

/-- The parsers of the next level down. The flag says whether lines may end inside. -/
structure Inner where
  expr : Bool → Parser Expr
  term : Bool → Parser Expr

/-! ### Templates -/

/-- The opening of an interpolation or a directive, with the mark that strips blanks. -/
def openSequence (sign : String) : Parser Expr := do
  word sign
  let strip ← option "~"
  return .mark (if strip then sign ++ "~" else sign)

/-- The end of an interpolation or a directive. -/
def closeSequence : Parser Expr := do
  freeTrivia
  let strip ← option "~"
  char '}'
  return .mark (if strip then "~\x7d" else "\x7d")

/-- An interpolation. -/
def interpolation (inner : Inner) : Parser Expr := do
  let opening ← openSequence "$\x7b"
  freeTrivia
  let value ← inner.expr true
  let closing ← closeSequence
  return .join [opening, value, closing]

/-- The variables of a comprehension or a loop: one name, or two with a comma between. -/
def loopVariables : Parser Expr := do
  let first ← name
  freeTrivia
  if ← option "," then
    freeTrivia
    let second ← name
    freeTrivia
    return .join [.leaf (.name first), .mark ",", .leaf (.name second)]
  else return .leaf (.name first)

/-- The head of a comprehension or a loop, behind its keyword: variables and collection. -/
def loopHead (inner : Inner) : Parser Expr := do
  freeTrivia
  let names ← loopVariables
  word "in"
  freeTrivia
  let collection ← inner.expr false
  return .join [.mark "for", names, .mark "in", collection]

/-- A directive whose end is still to come. -/
inductive OpenDirective where
  /-- A condition; `hasElse` once its second branch has begun. -/
  | condition (hasElse : Bool)
  | loop
  deriving DecidableEq, Repr

/-- Reads the inside of a directive among the directives `outer` that are still open, the
innermost first, and gives those open behind it. -/
def directiveBody (inner : Inner) (outer : List OpenDirective) :
    Parser (Expr × List OpenDirective) := do
  if ← option "if" then
    freeTrivia
    let condition ← inner.expr false
    return (.join [.mark "if", condition], .condition false :: outer)
  else if ← option "for" then
    return (← loopHead inner, .loop :: outer)
  else if ← option "else" then
    match outer with
    | .condition false :: outer => return (.mark "else", .condition true :: outer)
    | _ => fail
  else if ← option "endif" then
    match outer with
    | .condition _ :: outer => return (.mark "endif", outer)
    | _ => fail
  else if ← option "endfor" then
    match outer with
    | .loop :: outer => return (.mark "endfor", outer)
    | _ => fail
  else fail

/-- Reads a directive among the open directives, and gives those open behind it. -/
def directive (inner : Inner) (outer : List OpenDirective) :
    Parser (Expr × List OpenDirective) := do
  let opening ← openSequence "%\x7b"
  freeTrivia
  let (body, outer) ← directiveBody inner outer
  let closing ← closeSequence
  return (.join [opening, body, closing], outer)

/-- The state in the middle of a template: the parts read, the last one first, the plain
text behind them, its last character first, and the open directives. -/
structure TemplateState where
  parts : List Expr := []
  plain : List Char := []
  directives : List OpenDirective := []

namespace TemplateState

/-- Puts the plain text behind the parts. -/
def flush (s : TemplateState) : List Expr :=
  if s.plain.isEmpty then s.parts
  else .leaf (.text (String.ofList s.plain.reverse)) :: s.parts

/-- The template read, provided that every directive has been ended. -/
def finish (s : TemplateState) : Parser Expr := do
  require s.directives.isEmpty
  return .join s.flush.reverse

end TemplateState

/-- Reads one interpolation or directive of a template. -/
def sequencePiece (inner : Inner) (s : TemplateState) : Parser TemplateState := do
  if ← startsWith "$\x7b" then
    return ⟨(← interpolation inner) :: s.flush, [], s.directives⟩
  else
    let (part, directives) ← directive inner s.directives
    return ⟨part :: s.flush, [], directives⟩

/-- Reads a quoted template behind its opening quote, up to behind its closing one. -/
def quotedBody (inner : Inner) : Parser Expr :=
  loop (fun (s : TemplateState) => do
    match ← plainPiece true with
    | some text => return .inl { s with plain := text.reverse ++ s.plain }
    | none =>
      if ← option "\"" then return .inr (← s.finish)
      else return .inl (← sequencePiece inner s)) {}

/-- Reads a quoted template, from quote to quote. -/
def quotedTemplate (inner : Inner) : Parser Expr := do
  let start ← position
  char '"'
  let body ← quotedBody inner
  let stop ← position
  return .template ⟨start, stop⟩ [.mark "\"", body, .mark "\""]

/-- The number of characters of a line that ends a heredoc, up to behind its marker: blanks
and the marker, which must not be the beginning of a longer name. -/
def markerLine? (marker : List Char) (text : List Char) : Option Nat :=
  let blanks := (text.takeWhile fun c => c == ' ' || c == '\t').length
  let line := text.drop blanks
  if marker.isPrefixOf line && !(line.drop marker.length).head?.any Text.isNameContinue then
    some (blanks + marker.length)
  else none

/-- Reads the text of a heredoc and its closing marker. Inside it a backslash stands for
itself. -/
def heredocBody (inner : Inner) (marker : List Char) : Parser Expr :=
  loop (fun ((lineStart, s) : Bool × TemplateState) => do
    let text ← rest
    match if lineStart then markerLine? marker text else none with
    | some length =>
      skip length
      return .inr (← s.finish)
    | none =>
      match ← plainPiece false with
      | some text =>
        return .inl (text.getLast? == some '\n', { s with plain := text.reverse ++ s.plain })
      | none => return .inl (false, ← sequencePiece inner s)) (true, {})

/-- Reads a heredoc template: its introducer, the text, and the closing marker. -/
def heredoc (inner : Inner) : Parser Expr := do
  let start ← position
  word "<<"
  let indented ← option "-"
  let marker ← name
  lineEnd
  let body ← heredocBody inner marker.toList
  let stop ← position
  return .template ⟨start, stop⟩
    [.mark (if indented then "<<-" else "<<"), .leaf (.name marker), body]

/-! ### Terms -/

/-- Whether a comprehension stands at the front of the text: the keyword, and behind it
something that cannot continue a name. -/
def startsComprehension : List Char → Bool
  | 'f' :: 'o' :: 'r' :: c :: _ => c == ' ' || c == '\t' || c == '\n' || c == '#' || c == '/'
  | _ => false

/-- The filter of a comprehension, if it has one. -/
def loopFilter (inner : Inner) (lineEnds : Bool) : Parser Expr := do
  if ← option "if" then
    freeTrivia
    let condition ← inner.expr lineEnds
    freeTrivia
    return .join [.mark "if", condition]
  else return .join []

/-- A list comprehension, behind its opening bracket. -/
def listComprehension (inner : Inner) : Parser Expr := do
  word "for"
  let head ← loopHead inner
  freeTrivia
  char ':'
  freeTrivia
  let value ← inner.expr true
  freeTrivia
  let filter ← loopFilter inner true
  char ']'
  return .join [.mark "[", head, .mark ":", value, filter, .mark "]"]

/-- An object comprehension, behind its opening brace. -/
def objectComprehension (inner : Inner) : Parser Expr := do
  word "for"
  let head ← loopHead inner
  freeTrivia
  char ':'
  freeTrivia
  let key ← inner.expr false
  freeTrivia
  word "=>"
  freeTrivia
  let value ← inner.expr false
  freeTrivia
  let grouped ← option "..."
  freeTrivia
  let filter ← loopFilter inner false
  char '}'
  return .join [.mark "\x7b", head, .mark ":", key, .mark "=>", value,
    .mark (if grouped then "..." else ""), filter, .mark "\x7d"]

/-- Reads an ellipsis if there is one, where one is allowed, and says whether there is. -/
def expansion (allowed : Bool) : Parser Bool :=
  if allowed then option "..." else pure false

/-- Reads expressions separated by commas, up to a closing bracket. A comma may stand behind
the last one, and in an argument list an ellipsis may. -/
def sequence (inner : Inner) (close : Char) (ellipsis : Bool) : Parser Expr :=
  loop (fun (items : List Expr) => do
    freeTrivia
    if (← peek) == some close then
      skip 1
      return .inr (.join items.reverse)
    else
      let item ← inner.expr true
      freeTrivia
      if ← option "," then return .inl (Expr.mark "," :: item :: items)
      else
        let expanded ← expansion ellipsis
        freeTrivia
        char close
        let last := if expanded then [Expr.mark "..."] else []
        return .inr (.join (last ++ item :: items).reverse)) []

/-- Reads a list, or a list comprehension. -/
def list (inner : Inner) : Parser Expr := do
  char '['
  freeTrivia
  if startsComprehension (← rest) then listComprehension inner
  else return .join [.mark "[", ← sequence inner ']' false, .mark "]"]

/-- Reads the sign between a key and its value. -/
def assignment : Parser Unit := do
  if !(← option "=") then char ':'

/-- Reads the items of an object behind its opening brace. Items end with a comma or with
their line, and no key may occur twice. -/
def objectItems (inner : Inner) : Parser Expr :=
  loop (fun (items : List (Expr × Expr)) => do
    if ← option "\x7d" then
      return .inr (.join
        (items.reverse.flatMap fun (key, value) => [key, .mark "=", value, .mark ","]))
    else
      let key ← inner.expr false
      require (items.all fun item => item.1.symbols != key.symbols)
      inlineTrivia
      assignment
      inlineTrivia
      let value ← inner.expr false
      inlineTrivia
      match ← peek with
      | some '}' => return .inl ((key, value) :: items)
      | some ',' =>
        skip 1
        freeTrivia
        return .inl ((key, value) :: items)
      | _ =>
        optionalLineComment
        lineEnd
        freeTrivia
        return .inl ((key, value) :: items)) []

/-- Reads an object, or an object comprehension; says whether it was a comprehension. -/
def object (inner : Inner) : Parser (Expr × Bool) := do
  char '{'
  freeTrivia
  if startsComprehension (← rest) then return (← objectComprehension inner, true)
  else return (.join [.mark "\x7b", ← objectItems inner, .mark "\x7d"], false)

/-- Reads the further parts of a function's name. -/
def nameParts (lineEnds : Bool) : Parser (List String) :=
  loop (fun (parts : List String) => do
    trivia lineEnds
    if ← option "::" then
      trivia lineEnds
      return .inl ((← name) :: parts)
    else return .inr parts.reverse) []

/-- Reads a call behind the first part of the function's name, or nothing if there are no
arguments. -/
def call? (inner : Inner) (lineEnds : Bool) (first : String) : Parser (Option Expr) := attempt do
  let parts ← nameParts lineEnds
  if ← option "(" then
    let arguments ← sequence inner ')' true
    return some (.join (.leaf (.name first) ::
      parts.flatMap (fun part => [.mark "::", .leaf (.name part)]) ++
      [.mark "(", arguments, .mark ")"]))
  else
    require parts.isEmpty
    return none

/-- Reads a name, and behind it the arguments if it is called; says whether it was. -/
def variableOrCall (inner : Inner) (lineEnds : Bool) : Parser (Expr × Bool) := do
  let first ← name
  match ← call? inner lineEnds first with
  | some call => return (call, true)
  | none => return (.leaf (.name first), false)

/-- Reads an expression in parentheses. -/
def parenthesized (inner : Inner) : Parser Expr := do
  char '('
  freeTrivia
  let value ← inner.expr true
  freeTrivia
  char ')'
  return .join [.mark "(", value, .mark ")"]

/-- Reads a term, and says whether it lifts the restriction on line ends. A minus sign
directly in front of a digit belongs to the number. -/
def termAndFlag (inner : Inner) (lineEnds : Bool) : Parser (Expr × Bool) := do
  match ← rest with
  | '"' :: _ => return (← quotedTemplate inner, lineEnds)
  | '[' :: _ => return (← list inner, true)
  | '{' :: _ =>
    let (value, comprehension) ← object inner
    return (value, lineEnds || comprehension)
  | '(' :: _ => return (← parenthesized inner, lineEnds)
  | '<' :: _ => return (← heredoc inner, lineEnds)
  | '!' :: _ =>
    skip 1
    inlineTrivia
    return (.join [.mark "!", ← inner.term lineEnds], lineEnds)
  | '-' :: text =>
    skip 1
    if text.head?.any Text.isAsciiDigit then
      return (.leaf (.number true (← number)), lineEnds)
    else
      inlineTrivia
      return (.join [.mark "-", ← inner.term lineEnds], lineEnds)
  | c :: _ =>
    if Text.isAsciiDigit c then return (.leaf (.number false (← number)), lineEnds)
    else
      let (value, called) ← variableOrCall inner lineEnds
      return (value, lineEnds || called)
  | [] => fail

/-! ### Operators -/

/-- The binary operator at the front of a text. -/
def binaryOperator? : List Char → Option String
  | '=' :: '=' :: _ => some "=="
  | '!' :: '=' :: _ => some "!="
  | '<' :: '=' :: _ => some "<="
  | '>' :: '=' :: _ => some ">="
  | '&' :: '&' :: _ => some "&&"
  | '|' :: '|' :: _ => some "||"
  | '<' :: _ => some "<"
  | '>' :: _ => some ">"
  | '+' :: _ => some "+"
  | '-' :: _ => some "-"
  | '*' :: _ => some "*"
  | '%' :: _ => some "%"
  | '/' :: '/' :: _ => none
  | '/' :: '*' :: _ => none
  | '/' :: _ => some "/"
  | _ => none

/-- Reads an attribute, an index or a splat behind a term. -/
def traversal (inner : Inner) : Parser Expr := do
  if ← option "." then
    freeTrivia
    match ← peek with
    | some '*' => skip 1; return .mark ".*"
    | some c =>
      if Text.isAsciiDigit c then
        return .join [.mark ".", .leaf (.number false ⟨← integer, 0⟩)]
      else return .join [.mark ".", .leaf (.name (← name))]
    | none => fail
  else
    char '['
    freeTrivia
    if ← option "*" then
      freeTrivia
      char ']'
      return .mark "[*]"
    else
      let index ← inner.expr true
      freeTrivia
      char ']'
      return .join [.mark "[", index, .mark "]"]

/-- An expression in the making: the symbols read, the number of operators between its
operands, the largest number of operators inside one of them, and the templates read. -/
structure Chain where
  symbols : List Symbol
  count : Nat
  deepest : Nat
  templates : List ByteSpan

namespace Chain

/-- The chain with a further part, not an operand of its own. -/
def extend (chain : Chain) (part : Expr) : Chain :=
  ⟨chain.symbols ++ part.symbols, chain.count, max chain.deepest part.operators,
    chain.templates ++ part.templates⟩

/-- The chain with a further operator and its right operand. -/
def operate (chain : Chain) (operator : String) (operand : Expr) : Chain :=
  ⟨chain.symbols ++ .mark operator :: operand.symbols, chain.count + 1,
    max chain.deepest operand.operators, chain.templates ++ operand.templates⟩

/-- The expression that the chain has become. -/
def toExpr (chain : Chain) : Parser Expr := do
  require (chain.count + chain.deepest ≤ operatorLimit)
  return ⟨chain.symbols, chain.count + chain.deepest, chain.templates⟩

end Chain

/-- Reads the two branches of a conditional behind the question mark. -/
def branches (inner : Inner) (lineEnds : Bool) (condition : Expr) : Parser Expr := do
  trivia lineEnds
  let yes ← inner.expr lineEnds
  trivia lineEnds
  char ':'
  trivia lineEnds
  let no ← inner.expr lineEnds
  return .join [condition, .mark "?", yes, .mark ":", no]

/-- Reads a binary operator, which is next, and gives its right operand. -/
def rightOperand (inner : Inner) (lineEnds : Bool) (operator : String) : Parser Expr := do
  skip operator.length
  trivia lineEnds
  return (← termAndFlag inner lineEnds).1

/-- What follows a term or an operand: a traversal, an operator with its right operand, or
the branches of a conditional. Nothing is read when none of them follows. -/
def continuation (inner : Inner) (lineEnds : Bool) (chain : Chain) :
    Parser (Option (Chain ⊕ Expr)) := attempt do
  trivia lineEnds
  let text ← rest
  match text with
  | '.' :: '.' :: _ => return none
  | '.' :: _ | '[' :: _ => return some (.inl (chain.extend (← traversal inner)))
  | '?' :: _ =>
    skip 1
    return some (.inr (← branches inner lineEnds (← chain.toExpr)))
  | _ =>
    match binaryOperator? text with
    | some operator =>
      return some (.inl (chain.operate operator (← rightOperand inner lineEnds operator)))
    | none => return none

/-- Reads an expression. -/
def expression (inner : Inner) (lineEnds : Bool) : Parser Expr := do
  let (first, lineEnds) ← termAndFlag inner lineEnds
  loop (fun (chain : Chain) => do
    match ← continuation inner lineEnds chain with
    | some (.inl chain) => return .inl chain
    | some (.inr value) => return .inr value
    | none => return .inr (← chain.toExpr)) ⟨first.symbols, 0, first.operators, first.templates⟩

/-- The parsers for a place with a given number of levels left. -/
def levels : Nat → Inner
  | 0 => ⟨fun _ => fail, fun _ => fail⟩
  | n + 1 =>
    let inner := levels n
    ⟨expression inner, fun lineEnds => do return (← termAndFlag inner lineEnds).1⟩

end TerraLint.Document
