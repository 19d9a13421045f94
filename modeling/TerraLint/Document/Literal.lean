import TerraLint.Decimal.Binary64
import TerraLint.Document.Trivia
import TerraLint.Text.Name

/-!
# Names, numbers and quoted characters of a document

The smallest parts of a document. A number is kept by its value, so that `7` and
`007` are the same number; an integer has to fit into 64 bits, and a number with a
fraction or an exponent has to be in the range of floating point. Of a quoted
text it is the meaning that is kept: escapes are resolved, and a doubled dollar or
percent sign in front of a brace stands for a single one.
-/

namespace TerraLint.Document

open TerraLint.Parser

/-- Reads a name. -/
def name : Parser String := do
  let first ← satisfy Text.isNameStart
  let more ← takeWhile Text.isNameContinue
  return String.ofList (first :: more)

/-- The number that a run of decimal digits writes. -/
def decimalValue (digits : List Char) : Nat :=
  digits.foldl (fun value c => 10 * value + (c.toNat - '0'.toNat)) 0

/-- Reads one or more decimal digits. -/
def digits : Parser (List Char) := do
  let found ← takeWhile Text.isAsciiDigit
  require !found.isEmpty
  return found

/-- Reads an integer that fits into 64 bits. -/
def integer : Parser Nat := do
  let value := decimalValue (← digits)
  require (value < 1 <<< 64)
  return value

/-- Reads the letter of an exponent if there is one, and says whether there is. -/
def exponentLetter : Parser Bool := do
  if ← option "e" then return true else option "E"

/-- Reads a sign if there is one, and says whether it is a minus sign. -/
def sign : Parser Bool := do
  if ← option "-" then return true
  else
    let _ ← option "+"
    return false

/-- Reads an exponent if there is one. -/
def exponent : Parser (Option Int) := do
  if ← exponentLetter then
    let negative ← sign
    let value := decimalValue (← digits)
    return some (if negative then -value else value)
  else return none

/-- Reads the digits of a fraction if there is one. A point that no digit follows is not part
of a number. -/
def fraction : Parser (List Char) := do
  match ← rest with
  | '.' :: c :: _ =>
    if Text.isAsciiDigit c then
      skip 1
      digits
    else return []
  | _ => return []

/-- Reads an unsigned number. -/
def number : Parser Magnitude := do
  let whole ← digits
  let fraction ← fraction
  let scale ← exponent
  if fraction.isEmpty && scale.isNone then
    require (decimalValue whole < 1 <<< 64)
    return (Magnitude.mk (decimalValue whole) 0).normalize
  else
    let value ← ofOption
      (Magnitude.ofDecimal? (decimalValue (whole ++ fraction)) (scale.getD 0 - fraction.length))
    return value.normalize

/-- Reads a character given by a fixed number of hexadecimal digits. -/
def codePoint (count : Nat) : Parser Char := do
  let shown := (← rest).take count
  require (shown.length == count)
  skip count
  ofOption ((Text.hexValue? shown).bind Text.scalar?)

/-- Reads what follows the backslash of an escape. -/
def escape : Parser Char := do
  match ← any with
  | 'n' => return '\n'
  | 'r' => return '\r'
  | 't' => return '\t'
  | '\\' => return '\\'
  | '"' => return '"'
  | '/' => return '/'
  | 'b' => return '\x08'
  | 'f' => return '\x0c'
  | 'u' => codePoint 4
  | 'U' => codePoint 8
  | _ => fail

/-- The next stretch of plain text in a template: its meaning, or nothing where the plain
text ends. A sign that opens an interpolation or a directive ends it. -/
def plainPiece (escapes : Bool) : Parser (Option (List Char)) := do
  match ← rest with
  | [] => return none
  | '$' :: '$' :: '{' :: _ => skip 3; return some ['$', '{']
  | '%' :: '%' :: '{' :: _ => skip 3; return some ['%', '{']
  | '$' :: '{' :: _ | '%' :: '{' :: _ => return none
  | c :: _ =>
    if escapes && c == '"' then return none
    else if escapes && c == '\\' then do
      skip 1
      return some [← escape]
    else do
      skip 1
      return some [c]

/-- Reads a quoted text without interpolations, and gives its meaning. -/
def quotedText : Parser String := do
  char '"'
  let pieces ← collect (plainPiece true)
  char '"'
  return String.ofList pieces.flatten

end TerraLint.Document
