import TerraLint.Json
import TerraLint.Parser
import TerraLint.Text.Alphabetic

/-!
# Reading JSON

Reading is by a stack of open arrays and objects, so that values may nest as
deeply as they like. A step reads one token, and either opens a container, or puts
a finished value into the innermost one, or closes it.
-/

namespace TerraLint.Json

open TerraLint.Parser

/-- Passes over blanks between tokens. -/
def blanks : Parser Unit := do
  let _ ← takeWhile fun c => c == ' ' || c == '\n' || c == '\t' || c == '\r'

/-- Reads four hexadecimal digits of an escape. -/
def codeUnit : Parser Nat := do
  let shown := (← rest).take 4
  require (shown.length == 4)
  skip 4
  ofOption (Text.hexValue? shown)

/-- What an escape stands for: a character, or half of a surrogate pair. -/
def unicodeEscape : Parser (Option Char) := do
  let first ← codeUnit
  if 0xD800 ≤ first ∧ first < 0xDC00 then
    if ← startsWith "\\u" then
      let second := Text.hexValue? (((← rest).drop 2).take 4)
      match second with
      | some second =>
        if 0xDC00 ≤ second ∧ second < 0xE000 then
          skip 6
          return Text.scalar? (0x10000 + (first - 0xD800) * 0x400 + (second - 0xDC00))
        else return none
      | none => return none
    else return none
  else return Text.scalar? first

/-- Reads one more character of a string literal, or the quote that closes it. What has been
read, the last character first, is a text as long as it is `sound`. -/
def stringStep : Bool × List Char → Parser (Bool × List Char ⊕ Option String)
  | (sound, chars) => do
    match ← any with
    | '"' => return .inr (if sound then some (String.ofList chars.reverse) else none)
    | '\\' =>
      match ← any with
      | '"' => return .inl (sound, '"' :: chars)
      | '\\' => return .inl (sound, '\\' :: chars)
      | '/' => return .inl (sound, '/' :: chars)
      | 'b' => return .inl (sound, '\x08' :: chars)
      | 'f' => return .inl (sound, '\x0c' :: chars)
      | 'n' => return .inl (sound, '\n' :: chars)
      | 'r' => return .inl (sound, '\r' :: chars)
      | 't' => return .inl (sound, '\t' :: chars)
      | 'u' =>
        match ← unicodeEscape with
        | some c => return .inl (sound, c :: chars)
        | none => return .inl (false, chars)
      | _ => fail
    | c =>
      require (32 ≤ c.toNat)
      return .inl (sound, c :: chars)

/-- Reads the rest of a string literal behind its opening quote; `none` when it is no
text. -/
def stringBody : Parser (Option String) := loop stringStep (true, [])

/-- Reads one or more digits. -/
def digits : Parser (List Char) := do
  let found ← takeWhile Text.isAsciiDigit
  require !found.isEmpty
  return found

/-- Reads a number literal. -/
def numberLiteral : Parser String := do
  let negative ← option "-"
  let whole ← digits
  require (whole.length == 1 || whole.head? != some '0')
  let fraction ← do
    if ← option "." then pure ('.' :: (← digits)) else pure []
  let exponent ← do
    match ← peek with
    | some c =>
      if c == 'e' || c == 'E' then
        skip 1
        let sign ← takeWhile fun c => c == '+' || c == '-'
        require (sign.length ≤ 1)
        pure ('e' :: sign ++ (← digits))
      else pure []
    | none => pure []
  return String.ofList ((if negative then ['-'] else []) ++ whole ++ fraction ++ exponent)

/-- An array or object that is still open, with its content, the last part first. -/
inductive Container where
  | array (items : List Json)
  /-- An object that waits for the value of a key. -/
  | object (fields : List (String × Json)) (key : String)

/-- Reads the key of a field and the colon behind it. The opening quote comes next. -/
def key : Parser String := do
  char '"'
  let text ← ofOption (← stringBody)
  blanks
  char ':'
  return text

/-- What a reader waits for. -/
inductive Awaited where
  /-- A value, which goes into the innermost container. -/
  | value
  /-- What follows a finished value. -/
  | next (value : Json)

/-- A finished value that is a single token. -/
def scalarValue : Parser Json := do
  match ← peek with
  | some 'n' => word "null"; return .null
  | some 't' => word "true"; return .bool true
  | some 'f' => word "false"; return .bool false
  | some '"' =>
    skip 1
    match ← stringBody with
    | some text => return .string text
    | none => return .brokenString
  | _ => return .number (← numberLiteral)

/-- Reads a value that stands among the open containers, the innermost first. -/
def valueStep (containers : List Container) : Parser (List Container × Awaited) := do
  blanks
  if ← option "[" then
    blanks
    if ← option "]" then return (containers, .next (.array []))
    else return (.array [] :: containers, .value)
  else if ← option "\x7b" then
    blanks
    if ← option "\x7d" then return (containers, .next (.object []))
    else return (.object [] (← key) :: containers, .value)
  else return (containers, .next (← scalarValue))

/-- Puts a finished value into the innermost container, and reads what follows. -/
def nextStep (value : Json) :
    List Container → Parser (List Container × Awaited ⊕ Json)
  | [] => return .inr value
  | .array items :: outer => do
    blanks
    if ← option "," then return .inl (.array (value :: items) :: outer, .value)
    else
      char ']'
      return .inl (outer, .next (.array (value :: items).reverse))
  | .object fields key :: outer => do
    blanks
    if ← option "," then
      blanks
      let following ← Json.key
      return .inl (.object ((key, value) :: fields) following :: outer, .value)
    else
      char '}'
      return .inl (outer, .next (.object ((key, value) :: fields).reverse))

/-- Reads one token more. -/
def step : List Container × Awaited → Parser (List Container × Awaited ⊕ Json)
  | (containers, .value) => return .inl (← valueStep containers)
  | (containers, .next value) => nextStep value containers

/-- Reads a value, with blanks around it. -/
def value : Parser Json := do
  let value ← loop step ([], .value)
  blanks
  return value

/-- The value that a text writes. -/
def read? (text : String) : Option Json := readAll value text.toList

end TerraLint.Json
