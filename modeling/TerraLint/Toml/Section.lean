import TerraLint.Toml

/-!
# Tables under construction

A settings file fills its tables bit by bit: a header opens a table or adds one to
a list of tables, and a key with dots reaches into a table inside the open one.
What may be added to a table later depends on how it came about (`Origin`).

* A header opens a table once. It may name a table that so far was only on the way
  to another one.
* A key with dots goes through tables that such keys made, never through one that
  a header opened or that was given as a value.
* A key is given once.
-/

namespace TerraLint.Toml

/-- How a table came about. -/
inductive Origin where
  /-- By a header of its own. -/
  | header
  /-- On the way of a header to another table. -/
  | path
  /-- By a key with dots. -/
  | dotted
  deriving DecidableEq, Repr

/-- A part of a file under construction. -/
inductive Node where
  /-- A value, which is complete. -/
  | value (v : Toml)
  /-- A table. -/
  | table (origin : Origin) (entries : List (String × Node))
  /-- A list of tables, the latest first. -/
  | tables (items : List Node)

namespace Node

mutual

/-- The value that a part makes up. -/
def toToml : Node → Toml
  | value v => v
  | table _ entries => .table (entriesToToml entries)
  | tables items => .array (itemsToToml items).reverse

/-- The entries of a table as values. -/
def entriesToToml : List (String × Node) → List (String × Toml)
  | [] => []
  | (key, node) :: rest => (key, node.toToml) :: entriesToToml rest

/-- The tables of a list as values. -/
def itemsToToml : List Node → List Toml
  | [] => []
  | node :: rest => node.toToml :: itemsToToml rest

end

/-- The table to begin with. -/
def empty : Node := table .header []

/-- Puts an entry into the place of one with the same key, or at the end. -/
def put (key : String) (node : Node) : List (String × Node) → List (String × Node)
  | [] => [(key, node)]
  | (other, old) :: rest =>
    if other = key then (key, node) :: rest else (other, old) :: put key node rest

/-- Changes what stands under a key of a table. The change gets `none` for a new key. -/
def change (key : String) (f : Option Node → Option Node) : Node → Option Node
  | table origin entries => do
    return table origin (put key (← f (entries.lookup key)) entries)
  | _ => none

/-- Changes the table that a part stands for: of a list of tables the latest. A key with
dots does not enter a table that a header opened. -/
def enter (dotted : Bool) (f : Node → Option Node) : Node → Option Node
  | table origin entries =>
    if dotted && origin == .header then none else f (table origin entries)
  | tables (latest :: earlier) => do return tables ((← f latest) :: earlier)
  | _ => none

/-- Changes the table at the end of a path, and makes the tables that are missing on the
way. -/
def reach (dotted : Bool) (f : Node → Option Node) : List String → Node → Option Node
  | [], node => f node
  | key :: rest, node =>
    node.change key fun
      | some inner => inner.enter dotted (reach dotted f rest)
      | none => reach dotted f rest (table (if dotted then .dotted else .path) [])

/-- Opens a table by a header. -/
def openTable (path : List String) (key : String) : Node → Option Node :=
  reach false (change key fun
    | none => some (table .header [])
    | some (table .path entries) => some (table .header entries)
    | some _ => none) path

/-- Adds a table to a list of tables by a header. -/
def openElement (path : List String) (key : String) : Node → Option Node :=
  reach false (change key fun
    | none => some (tables [empty])
    | some (tables items) => some (tables (empty :: items))
    | some _ => none) path

/-- The table was made by a key with dots. -/
def isDotted : Node → Bool
  | table .dotted _ => true
  | _ => false

/-- Gives a value to a key, which has `path` in front of its last part. -/
def assign (path : List String) (key : String) (v : Toml) : Node → Option Node :=
  reach true (fun node =>
    if node.isDotted == path.isEmpty then none
    else node.change key fun
      | none => some (value v)
      | some _ => none) path

/-- Gives a value to a key in the table at the end of the path of a header. -/
def assignIn (current path : List String) (key : String) (v : Toml) : Node → Option Node :=
  reach false (assign path key v) current

end Node

end TerraLint.Toml
