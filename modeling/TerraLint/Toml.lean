import TerraLint.Decimal.Binary64

/-!
# Settings values

Settings files are written in TOML. A value is a text, a number, a truth value, a
date or time, an array or a table. Dates and times are kept as text in their
normal form, since nothing is computed with them. A table has every key at most
once.
-/

namespace TerraLint

/-- A value of a settings file. -/
inductive Toml where
  | string (text : String)
  | integer (value : Int)
  | float (value : Binary64)
  | boolean (value : Bool)
  /-- A date, a time or both, in normal form. -/
  | datetime (text : String)
  | array (items : List Toml)
  | table (entries : List (String × Toml))
  deriving Repr

namespace Toml

/-- The text of a string. -/
def asString? : Toml → Option String
  | string text => some text
  | _ => none

/-- The text of a string, or of a date or time. -/
def asText? : Toml → Option String
  | string text => some text
  | datetime text => some text
  | _ => none

/-- The value of a truth value. -/
def asBoolean? : Toml → Option Bool
  | boolean value => some value
  | _ => none

/-- The value of an integer. -/
def asInteger? : Toml → Option Int
  | integer value => some value
  | _ => none

/-- The items of an array. -/
def asArray? : Toml → Option (List Toml)
  | array items => some items
  | _ => none

/-- The entries of a table. -/
def asTable? : Toml → Option (List (String × Toml))
  | table entries => some entries
  | _ => none

/-- The texts of an array of them. -/
def asTexts? (value : Toml) : Option (List String) := do
  (← value.asArray?).mapM asText?

/-- The texts of a table of them, by key. -/
def asTextTable? (value : Toml) : Option (List (String × String)) := do
  (← value.asTable?).mapM fun (key, text) => return (key, ← text.asText?)

end Toml

end TerraLint
