import TerraLint.Issue
import TerraLint.Toml.Reader

/-!
# Settings

The settings of a run: which directory is looked at and how (`ScanSettings`), and
for each rule whether it is on, how severe its issues are, and its own options
(`RuleSettings`).

A settings file has the tables `analyzer` and `rules`. What it leaves out has a
default. The defaults of single keys and the default of the whole `analyzer` table
differ in one point: a file without the table leaves out the directories in which
modules are kept after a download.
-/

namespace TerraLint

/-- Which modules rules are run on. -/
inductive Coverage where
  | rootOnly
  | allModules
  deriving DecidableEq, Repr

/-- How a directory is looked at. -/
structure ScanSettings where
  root : String := "."
  /-- Patterns of files to leave out. -/
  exclude : List String := []
  /-- Look at the directories below the root as well. -/
  recursive : Bool := false
  rootModuleOnly : Bool := true
  /-- Leave out what version control ignores. -/
  respectGitignore : Bool := true
  /-- The most issues that one run of a rule may have. -/
  maxIssues : Option Nat := none
  deriving DecidableEq, Repr

/-- What is set for a rule. -/
structure RuleSettings where
  enabled : Option Bool := none
  severity : Option Severity := none
  options : List (String × Toml) := []

/-- The settings of a run. -/
structure Settings where
  scan : ScanSettings := { exclude := ["**/.terraform/**"] }
  /-- By the name of the rule. -/
  rules : List (String × RuleSettings) := []

/-! ### Reading settings -/

namespace ScanSettings

/-- The number of issues that a value allows. -/
def limitOf? (value : Toml) : Option Nat := do
  let n ← value.asInteger?
  guard (0 ≤ n)
  return n.toNat

/-- The settings with the value of a key put in. Unknown keys do not count. -/
def set (s : ScanSettings) (key : String) (value : Toml) : Option ScanSettings :=
  match key with
  | "root" => do return { s with root := ← value.asString? }
  | "exclude" => do return { s with exclude := ← (← value.asArray?).mapM Toml.asString? }
  | "recursive" => do return { s with recursive := ← value.asBoolean? }
  | "root_module_only" => do return { s with rootModuleOnly := ← value.asBoolean? }
  | "respect_gitignore" => do return { s with respectGitignore := ← value.asBoolean? }
  | "max_issues" => do return { s with maxIssues := some (← limitOf? value) }
  | _ => some s

/-- The keys, in the order in which an array gives their values. -/
def keys : List String :=
  ["root", "exclude", "recursive", "root_module_only", "respect_gitignore", "max_issues"]

/-- The settings that a value describes: a table, or an array of values in the order of
the keys. -/
def ofToml? : Toml → Option ScanSettings
  | .table entries => entries.foldlM (fun s (key, value) => s.set key value) {}
  | .array items => (keys.zip items).foldlM (fun s (key, value) => s.set key value) {}
  | _ => none

end ScanSettings

/-- The severity that a value describes: its word, or a table with the word as its only key
and nothing in it. -/
def Severity.ofToml? : Toml → Option Severity
  | .string word => ofWord? word
  | .table [(word, .table [])] => ofWord? word
  | .table [(word, .array [])] => ofWord? word
  | _ => none

namespace RuleSettings

/-- The settings with the value of a key put in; what is not said of all rules is an option
of this one. -/
def set (s : RuleSettings) (key : String) (value : Toml) : Option RuleSettings :=
  match key with
  | "enabled" => do return { s with enabled := some (← value.asBoolean?) }
  | "severity" => do return { s with severity := some (← Severity.ofToml? value) }
  | _ => some { s with options := s.options ++ [(key, value)] }

/-- The settings that a value describes. -/
def ofToml? (value : Toml) : Option RuleSettings := do
  (← value.asTable?).foldlM (fun s (key, value) => s.set key value) {}

end RuleSettings

namespace Settings

/-- The settings with the value of a key put in. Unknown keys do not count. -/
def set (s : Settings) (key : String) (value : Toml) : Option Settings :=
  match key with
  | "analyzer" => do return { s with scan := ← ScanSettings.ofToml? value }
  | "rules" => do
    let rules ← (← value.asTable?).mapM fun (name, value) =>
      return (name, ← RuleSettings.ofToml? value)
    return { s with rules }
  | _ => some s

/-- The settings that a file describes. -/
def ofText? (text : String) : Option Settings := do
  (← (← Toml.read? text).asTable?).foldlM (fun s (key, value) => s.set key value) {}

/-! ### Asking settings -/

/-- What is set for a rule. -/
def rule? (s : Settings) (name : String) : Option RuleSettings := s.rules.lookup name

/-- Whether a rule is on, given whether it is on by itself. -/
def isEnabled (s : Settings) (name : String) (byDefault : Bool) : Bool :=
  ((s.rule? name).bind RuleSettings.enabled).getD byDefault

/-- The severity that is set for the issues of a rule. -/
def severity? (s : Settings) (name : String) : Option Severity :=
  (s.rule? name).bind RuleSettings.severity

/-- Which modules rules are run on. -/
def coverage (s : Settings) : Coverage :=
  if s.scan.rootModuleOnly then .rootOnly else .allModules

end Settings

/-! ### Options of rules -/

/-- An option whose value has the wrong form, by its key. -/
structure OptionError where
  key : String
  deriving DecidableEq, Repr

/-- What is said of an option whose value has the wrong form. -/
def OptionError.message (e : OptionError) : String :=
  "Invalid value for option `" ++ e.key ++ "`"

/-- The option under a key, read by a reader for values of its form; `none` when it is not
set. -/
def RuleSettings.option {α : Type} (s : RuleSettings) (key : String) (read : Toml → Option α) :
    Except OptionError (Option α) :=
  match s.options.lookup key with
  | none => .ok none
  | some value =>
    match read value with
    | some a => .ok (some a)
    | none => .error ⟨key⟩

end TerraLint
