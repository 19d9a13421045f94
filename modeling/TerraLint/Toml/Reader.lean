import TerraLint.Toml.Scalar
import TerraLint.Toml.Section

/-!
# Reading settings files

A settings file is read line by line: a line is empty, or a header, or gives a
value to a key. Arrays and tables may also be written as values; an array may run
over several lines and a table may not. Values nest less than eighty deep, and so
do the tables on the way of a key.
-/

namespace TerraLint.Toml

open TerraLint.Parser

/-- Values may nest up to this depth, exclusively. -/
def depthLimit : Nat := 80

/-- A character of a key without quotes. -/
def isKeyChar (c : Char) : Bool :=
  Text.isAsciiLetter c || Text.isAsciiDigit c || c == '_' || c == '-'

/-- Reads one part of a key, with the blanks around it. -/
def keyPart : Parser String := do
  spaces
  let part ← do
    if ← option "\"" then basicString
    else if ← option "'" then literalString
    else
      let chars ← takeWhile isKeyChar
      require !chars.isEmpty
      pure (String.ofList chars)
  spaces
  return part

/-- Reads a key: the parts in front of its last part, and the last part. -/
def key : Parser (List String × String) := do
  let first ← keyPart
  let others ← collect do
    if ← option "." then return some (← keyPart) else return none
  let parts := first :: others
  require (parts.length < depthLimit)
  return (parts.dropLast, parts.getLastD "")

/-- Reads an item of an array and what separates it from the next one, or ends the array. -/
def arrayStep (value : Parser Toml) (items : List Toml) : Parser (List Toml ⊕ List Toml) := do
  let items := (← value) :: items
  fillers
  if ← option "," then
    fillers
    if ← option "]" then return .inr items.reverse else return .inl items
  else
    char ']'
    return .inr items.reverse

/-- Reads the rest of an array behind its bracket. -/
def arrayValue (value : Parser Toml) : Parser Toml := do
  fillers
  if ← option "]" then return .array []
  else return .array (← loop (arrayStep value) [])

/-- Reads an entry of a table that is written as a value, and the comma behind it or the brace
that ends the table. -/
def tableStep (value : Parser Toml) (node : Node) : Parser (Node ⊕ Node) := do
  let (path, last) ← key
  char '='
  spaces
  let node ← ofOption (node.assign path last (← value))
  spaces
  if ← option "," then return .inl node
  else
    char '}'
    return .inr node

/-- Reads the rest of a table that is written as a value, behind its brace. -/
def tableValue (value : Parser Toml) : Parser Toml := do
  spaces
  if ← option "\x7d" then return Node.empty.toToml
  else return (← loop (tableStep value) Node.empty).toToml

/-- Reads a value with less than a given number of values around each other. -/
def valueWithin : Nat → Parser Toml
  | 0 => scalar
  | depth + 1 => do
    if ← option "[" then
      require (depth != 0)
      arrayValue (valueWithin depth)
    else if ← option "\x7b" then
      require (depth != 0)
      tableValue (valueWithin depth)
    else scalar

/-- Reads a value. -/
def value : Parser Toml := valueWithin depthLimit

/-- Reads up to the end of a line. -/
def restOfLine : Parser Unit := do
  spaces
  let _ ← comment
  if !(← atEnd) then
    require (← lineBreak)

/-- The state of reading a file: what has been read, and the path of the open table. -/
structure Progress where
  node : Node := .empty
  current : List String := []

/-- Reads one line, or ends at the end of the file. -/
def line (p : Progress) : Parser (Progress ⊕ Node) := do
  spaces
  match ← peek with
  | none => return .inr p.node
  | some '#' =>
    restOfLine
    return .inl p
  | some '\n' | some '\r' =>
    require (← lineBreak)
    return .inl p
  | some '[' =>
    skip 1
    let element ← option "["
    let (path, last) ← key
    char ']'
    if element then char ']'
    restOfLine
    let node ← ofOption (if element then p.node.openElement path last
      else p.node.openTable path last)
    return .inl ⟨node, path ++ [last]⟩
  | some _ =>
    let (path, last) ← key
    char '='
    spaces
    let v ← value
    restOfLine
    return .inl { p with node := ← ofOption (p.node.assignIn p.current path last v) }

/-- The table that a file describes. A byte order mark in front is passed over. -/
def read? (text : String) : Option Toml :=
  let chars := text.toList
  let chars := if chars.head? == some '\uFEFF' then chars.drop 1 else chars
  (readAll (loop line {}) chars).map Node.toToml

end TerraLint.Toml
