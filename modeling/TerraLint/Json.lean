import TerraLint.Text.Hex

/-!
# JSON values

Reports are exchanged as JSON. A value is kept as it is written: the fields of an
object in order and with repetitions, and a number by its literal, since a count
has to be told apart from a number that merely has an integral value.

A string literal may escape half of a surrogate pair, which is no text. Such a
literal is a value of its own (`Json.brokenString`): it can be passed over, but
not read.
-/

namespace TerraLint

/-- A JSON value. -/
inductive Json where
  | null
  | bool (value : Bool)
  | number (literal : String)
  | string (value : String)
  /-- A string literal that holds half of a surrogate pair. -/
  | brokenString
  | array (items : List Json)
  | object (fields : List (String × Json))

namespace Json

/-- A natural number. -/
def nat (n : Nat) : Json := number (toString n)

/-! ### Writing -/

/-- A character as it stands in a string literal. -/
def escapeChar (c : Char) : String :=
  match c with
  | '"' => "\\\""
  | '\\' => "\\\\"
  | '\x08' => "\\b"
  | '\x0c' => "\\f"
  | '\n' => "\\n"
  | '\r' => "\\r"
  | '\t' => "\\t"
  | c =>
    if c.toNat < 32 then
      "\\u00" ++ (if c.toNat < 16 then "0" else "") ++ Text.hexText c.toNat
    else c.toString

/-- The literal for a text. -/
def quote (text : String) : String :=
  "\"" ++ String.join (text.toList.map escapeChar) ++ "\""

/-- The blanks in front of a line at a depth. -/
def indent (depth : Nat) : String := String.ofList (List.replicate (2 * depth) ' ')

/-- Lines between brackets, each a level deeper than the brackets, with commas between. -/
def bracket (depth : Nat) (opening closing : String) : List String → String
  | [] => opening ++ closing
  | lines =>
    opening ++ "\n" ++ ",\n".intercalate (lines.map (indent (depth + 1) ++ ·)) ++ "\n" ++
      indent depth ++ closing

mutual

/-- The value written over several lines, the first of which stands at a depth. -/
def prettyAt (depth : Nat) : Json → String
  | .null => "null"
  | .bool true => "true"
  | .bool false => "false"
  | .number literal => literal
  | .string value => quote value
  | .brokenString => "\"\""
  | .array items => bracket depth "[" "]" (prettyItems depth items)
  | .object fields => bracket depth "\x7b" "\x7d" (prettyFields depth fields)

/-- The items of an array, each without the blanks in front of its first line. -/
def prettyItems (depth : Nat) : List Json → List String
  | [] => []
  | item :: rest => prettyAt (depth + 1) item :: prettyItems depth rest

/-- The fields of an object, each without the blanks in front of its first line. -/
def prettyFields (depth : Nat) : List (String × Json) → List String
  | [] => []
  | (key, value) :: rest =>
    (quote key ++ ": " ++ prettyAt (depth + 1) value) :: prettyFields depth rest

end

/-- The value written over several lines. -/
def pretty (value : Json) : String := prettyAt 0 value

end Json

end TerraLint
