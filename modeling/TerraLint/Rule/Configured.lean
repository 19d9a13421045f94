import TerraLint.Rule
import TerraLint.Settings
import TerraLint.Text.Quoted

/-!
# Rules with options

Some rules have options in the settings. An option that is not set leaves the rule
as it is by default; an option that makes no sense is an error, and with it there
is no rule (`RuleError`).
-/

namespace TerraLint

/-- Why a rule cannot be made from its settings. The first argument is the rule. -/
inductive RuleError where
  | invalidPattern (rule : String)
  | wrongForm (rule : String) (cause : OptionError)
  /-- A block type is to be kept in a file whose name is empty or names a directory. -/
  | notPlainFile (rule : String) (type file : String)
  /-- Two block types are to be kept in one file. -/
  | sharedFile (rule : String) (first second file : String)
  | noAllowedTypes (rule : String)
  deriving DecidableEq, Repr

namespace RuleError

/-- The cause as messages show it. -/
def message : RuleError → String
  | invalidPattern rule => rule ++ ": invalid pattern"
  | wrongForm rule cause => rule ++ ": " ++ cause.message
  | notPlainFile rule type file =>
    rule ++ ": file for " ++ type ++ " must be a plain file name, got " ++ Text.quoted file
  | sharedFile rule first second file =>
    rule ++ ": " ++ first ++ " and " ++ second ++ " cannot share " ++ file
  | noAllowedTypes rule => rule ++ ": allowed_types must not be empty"

end RuleError

/-- The option of a rule under a key, if there are settings for the rule and it is set. -/
def RuleSettings.optionOf {α : Type} (settings : Option RuleSettings) (rule key : String)
    (read : Toml → Option α) : Except RuleError (Option α) :=
  match settings with
  | none => .ok none
  | some settings => (settings.option key read).mapError (.wrongForm rule)

end TerraLint
