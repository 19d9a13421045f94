import TerraLint.Parser
import TerraLint.Text.Alphabetic
import TerraLint.Text.Hex
import TerraLint.Toml

/-!
# Scalars of settings files

Texts come in four notations: between double quotes with escapes, between single
quotes without, and both of these between tripled quotes, where they may run over
several lines. A line break in a text is a line feed, however it was written.

Numbers have underscores between digits at will. Integers fit into 64 bits, and
floating point numbers do not overflow upwards. Dates and times are checked
against the calendar and brought into their normal form.
-/

namespace TerraLint.Toml

open TerraLint.Parser

/-! ### Blanks and comments -/

/-- A blank inside a line. -/
def isSpace (c : Char) : Bool := c == ' ' || c == '\t'

/-- A character that may stand in a comment or a text: no control character but the tab. -/
def isShown (c : Char) : Bool :=
  c == '\t' || (32 ≤ c.toNat && c.toNat != 127)

/-- Passes over blanks inside a line. -/
def spaces : Parser Unit := do
  let _ ← takeWhile isSpace

/-- Reads a line break, if there is one. -/
def lineBreak : Parser Bool := do
  if ← option "\n" then return true else option "\r\n"

/-- Reads a comment, if there is one. -/
def comment : Parser Bool := do
  if ← option "#" then
    let _ ← takeWhile isShown
    return true
  else return false

/-- One piece of what may stand between the parts of an array. -/
def filler : Parser (Option Unit) := do
  match ← peek with
  | some '#' =>
    let _ ← comment
    require (← lineBreak)
    return some ()
  | some c =>
    if isSpace c then
      spaces
      return some ()
    else if ← lineBreak then return some ()
    else return none
  | none => return none

/-- Passes over blanks, line breaks and comments. -/
def fillers : Parser Unit := do
  let _ ← collect filler

/-! ### Texts -/

/-- Reads a code point with a fixed number of digits. -/
def codePointEscape (count : Nat) : Parser Char := do
  let shown := (← rest).take count
  require (shown.length == count)
  skip count
  ofOption ((Text.hexValue? shown).bind Text.scalar?)

/-- Reads an escape behind its backslash. -/
def escapedChar : Parser Char := do
  match ← any with
  | 'b' => return '\x08'
  | 't' => return '\t'
  | 'n' => return '\n'
  | 'f' => return '\x0c'
  | 'r' => return '\r'
  | '"' => return '"'
  | '\\' => return '\\'
  | 'u' => codePointEscape 4
  | 'U' => codePointEscape 8
  | _ => fail

/-- Reads one character of a text between double quotes, or the quote that ends it. -/
def basicStep (chars : List Char) : Parser (List Char ⊕ String) := do
  match ← any with
  | '"' => return .inr (String.ofList chars.reverse)
  | '\\' => return .inl ((← escapedChar) :: chars)
  | c =>
    require (isShown c)
    return .inl (c :: chars)

/-- Reads the rest of a text between double quotes, behind the first. -/
def basicString : Parser String := loop basicStep []

/-- Reads the rest of a text between single quotes, behind the first. -/
def literalString : Parser String := do
  let chars ← takeWhile fun c => c != '\'' && isShown c
  char '\''
  return String.ofList chars

/-- Whether a backslash, which has been read, stands at the end of a line. -/
def endsLine : Parser Bool := do
  let left := (← rest).dropWhile isSpace
  return ['\n'].isPrefixOf left || ['\r', '\n'].isPrefixOf left

/-- Reads a run of quotes in a text between tripled quotes. Three of them end the text, and
up to two more in front of them belong to it. -/
def quoteRun (quote : Char) (chars : List Char) : Parser (List Char ⊕ String) := do
  let length := ((← rest).takeWhile (· == quote)).length
  if length < 3 then
    skip length
    return .inl (List.replicate length quote ++ chars)
  else
    let inner := min (length - 3) 2
    skip (inner + 3)
    return .inr (String.ofList (List.replicate inner quote ++ chars).reverse)

/-- Reads the rest of a text between tripled quotes, behind the first three. -/
def longString (quote : Char) (escapes : Bool) : Parser String := do
  let _ ← lineBreak
  loop (fun (chars : List Char) => do
    match ← peek with
    | none => fail
    | some c =>
      if c == quote then quoteRun quote chars
      else if c == '\\' && escapes then
        skip 1
        if ← endsLine then
          let _ ← takeWhile isSpace
          let _ ← collect do
            if ← lineBreak then return some ()
            else if (← takeWhile isSpace).isEmpty then return none
            else return some ()
          return .inl chars
        else return .inl ((← escapedChar) :: chars)
      else if ← lineBreak then return .inl ('\n' :: chars)
      else
        require (isShown c)
        skip 1
        return .inl (c :: chars)) []

/-- Reads a text in any notation. -/
def stringValue : Parser String := do
  if ← option "\"\"\"" then longString '"' true
  else if ← option "'''" then longString '\'' false
  else if ← option "\"" then basicString
  else
    char '\''
    literalString

/-! ### Dates and times -/

/-- Reads a number with a fixed count of digits between two bounds. -/
def fixedDigits (count low high : Nat) : Parser Nat := do
  let shown := (← rest).take count
  require (shown.length == count && shown.all Text.isAsciiDigit)
  skip count
  let value := shown.foldl (fun n c => 10 * n + (c.toNat - '0'.toNat)) 0
  require (low ≤ value && value ≤ high)
  return value

/-- A number with at least a given count of digits. -/
def padded (count n : Nat) : String :=
  let shown := Nat.toDigits 10 n
  String.ofList (List.replicate (count - shown.length) '0' ++ shown)

/-- The number of days of a month. -/
def daysIn (year month : Nat) : Nat :=
  if month = 2 then
    if year % 4 = 0 ∧ (year % 100 ≠ 0 ∨ year % 400 = 0) then 29 else 28
  else if [4, 6, 9, 11].contains month then 30
  else 31

/-- Reads a date. -/
def date : Parser String := do
  let year ← fixedDigits 4 0 9999
  char '-'
  let month ← fixedDigits 2 1 12
  char '-'
  let day ← fixedDigits 2 1 (daysIn year month)
  return padded 4 year ++ "-" ++ padded 2 month ++ "-" ++ padded 2 day

/-- Reads a time of day. Of a fraction nine digits count, up to the last that is not zero. -/
def time : Parser String := do
  let hour ← fixedDigits 2 0 23
  char ':'
  let minute ← fixedDigits 2 0 59
  char ':'
  let second ← fixedDigits 2 0 60
  let fraction ← do
    if ← option "." then
      let shown ← takeWhile Text.isAsciiDigit
      require !shown.isEmpty
      pure ((shown.take 9).reverse.dropWhile (· == '0')).reverse
    else pure []
  return padded 2 hour ++ ":" ++ padded 2 minute ++ ":" ++ padded 2 second ++
    (if fraction.isEmpty then "" else String.ofList ('.' :: fraction))

/-- Reads the distance of a time from universal time, if it is given. -/
def offset : Parser String := do
  match ← peek with
  | some 'Z' | some 'z' =>
    skip 1
    return "Z"
  | some c =>
    if c == '+' || c == '-' then
      skip 1
      let hours ← fixedDigits 2 0 23
      char ':'
      let minutes ← fixedDigits 2 0 59
      let sign := if c == '-' && 0 < hours + minutes then "-" else "+"
      return sign ++ padded 2 hours ++ ":" ++ padded 2 minutes
    else return ""
  | none => return ""

/-- The text begins like a date. -/
def looksLikeDate (text : List Char) : Bool :=
  (text.take 4).length == 4 && (text.take 4).all Text.isAsciiDigit && text[4]? == some '-'

/-- The text begins like a time of day. -/
def looksLikeTime (text : List Char) : Bool :=
  (text.take 2).length == 2 && (text.take 2).all Text.isAsciiDigit && text[2]? == some ':'

/-- Reads a date, with a time of day behind it if there is one. -/
def dateAndTime : Parser String := do
  let day ← date
  let left ← rest
  let delimited := left.head?.any fun c => c == 'T' || c == 't' || c == ' '
  if delimited && looksLikeTime (left.drop 1) then
    skip 1
    return day ++ "T" ++ (← time) ++ (← offset)
  else return day

/-! ### Numbers -/

/-- Reads digits of a class, with single underscores between them. -/
def digitRun (accepts : Char → Bool) : Parser (List Char) := do
  let first ← satisfy accepts
  let others ← collect do
    match ← peek with
    | some '_' =>
      skip 1
      return some (← satisfy accepts)
    | some c =>
      if accepts c then
        skip 1
        return some c
      else return none
    | none => return none
  return first :: others

/-- The value of digits in a base. -/
def digitsValue (base : Nat) (digits : List Char) : Nat :=
  digits.foldl (fun n c => base * n + (Text.hexDigit? c).getD 0) 0

/-- An integer that fits into 64 bits with its sign. -/
def bounded (value : Int) : Parser Toml := do
  let limit : Nat := 1 <<< 63
  require (-limit ≤ value && value < limit)
  return .integer value

/-- Reads an exponent, if there is one. -/
def exponentPart : Parser (Option Int) := do
  match ← peek with
  | some c =>
    if c == 'e' || c == 'E' then
      skip 1
      let negative ← option "-"
      if !negative then
        let _ ← option "+"
      let value : Int := digitsValue 10 (← digitRun Text.isAsciiDigit)
      return some (if negative then -value else value)
    else return none
  | none => return none

/-- The floating point number with given digits and power of ten. What is too large upwards
is refused, and what is too large downwards is infinite. -/
def floatOf (negative : Bool) (digits : List Char) (exponent : Int) : Parser Toml :=
  match Magnitude.ofDecimal? (digitsValue 10 digits) exponent with
  | some magnitude => return .float (.finite negative magnitude)
  | none => if negative then return .float (.infinite true) else fail

/-- Reads a decimal number behind its sign. -/
def decimalNumber (negative : Bool) : Parser Toml := do
  let whole ← do
    if (← peek) == some '0' then
      skip 1
      pure ['0']
    else digitRun Text.isAsciiDigit
  if ← option "." then
    let fraction ← digitRun Text.isAsciiDigit
    let exponent := (← exponentPart).getD 0
    floatOf negative (whole ++ fraction) (exponent - fraction.length)
  else
    match ← exponentPart with
    | some exponent => floatOf negative whole exponent
    | none =>
      let value : Int := digitsValue 10 whole
      bounded (if negative then -value else value)

/-- Reads a number without a sign that is written in a base of its own, or a decimal one. -/
def unsignedNumber : Parser Toml := do
  if ← option "0x" then
    bounded (digitsValue 16 (← digitRun fun c => (Text.hexDigit? c).isSome))
  else if ← option "0o" then
    bounded (digitsValue 8 (← digitRun fun c => '0' ≤ c && c ≤ '7'))
  else if ← option "0b" then
    bounded (digitsValue 2 (← digitRun fun c => c == '0' || c == '1'))
  else decimalNumber false

/-- Reads a number behind its sign. -/
def signedNumber (negative : Bool) : Parser Toml := do
  if ← option "inf" then return .float (.infinite negative)
  else if ← option "nan" then return .float .notANumber
  else decimalNumber negative

/-! ### All scalars -/

/-- Reads a value that is neither an array nor a table. -/
def scalar : Parser Toml := do
  let left ← rest
  match left.head? with
  | some '"' | some '\'' => return .string (← stringValue)
  | some 't' => word "true"; return .boolean true
  | some 'f' => word "false"; return .boolean false
  | some 'i' => word "inf"; return .float (.infinite false)
  | some 'n' => word "nan"; return .float .notANumber
  | some '+' => skip 1; signedNumber false
  | some '-' => skip 1; signedNumber true
  | _ =>
    if looksLikeDate left then return .datetime (← dateAndTime)
    else if looksLikeTime left then return .datetime (← time)
    else unsignedNumber

end TerraLint.Toml
