import TerraLint.Toml

/-!
# Settings files in plain style

A settings file in plain style is made of lines: remarks, headers of tables, and
entries. The values of entries are truth values, texts, and arrays and tables of
texts (`PlainValue`). Texts stand between double quotes as they are, without
escapes, and keys stand without quotes.
-/

namespace TerraLint.Toml

/-- A value, with the way it is written. -/
inductive PlainValue where
  | boolean (value : Bool)
  | string (text : String)
  /-- An array of texts on one line. -/
  | row (items : List String)
  /-- An array of texts, each on a line of its own. -/
  | column (items : List String)
  /-- A table of texts on one line. -/
  | table (entries : List (String × String))

/-- A text between double quotes. -/
def quote (text : String) : String := "\"" ++ text ++ "\""

/-- An entry whose value is a text. -/
def textEntry (e : String × String) : String := e.1 ++ " = " ++ quote e.2

/-- A text on a line of its own, as an item of an array. -/
def itemLine (text : String) : String := "    " ++ quote text ++ ",\n"

namespace PlainValue

/-- The value. -/
def toToml : PlainValue → Toml
  | boolean value => .boolean value
  | string text => .string text
  | row items => .array (items.map .string)
  | column items => .array (items.map .string)
  | table entries => .table (entries.map fun (key, text) => (key, .string text))

/-- The value as it is written. -/
def write : PlainValue → String
  | boolean value => if value then "true" else "false"
  | string text => quote text
  | row items => "[" ++ ", ".intercalate (items.map quote) ++ "]"
  | column items => "[\n" ++ String.join (items.map itemLine) ++ "]"
  | table entries => "\x7b " ++ ", ".intercalate (entries.map textEntry) ++ " \x7d"

end PlainValue

/-- A line of a settings file in plain style. -/
inductive PlainLine where
  | empty
  | remark (text : String)
  /-- The header of a table: the tables around it, and its name. -/
  | header (path : List String) (name : String)
  | entry (key : String) (value : PlainValue)

/-- The line as it is written. -/
def PlainLine.write : PlainLine → String
  | empty => ""
  | remark text => "# " ++ text
  | header path name => "[" ++ ".".intercalate (path ++ [name]) ++ "]"
  | entry key value => key ++ " = " ++ value.write

/-- The text of a settings file in plain style. -/
def writeLines (lines : List PlainLine) : String :=
  String.join (lines.map fun line => line.write ++ "\n")

end TerraLint.Toml
