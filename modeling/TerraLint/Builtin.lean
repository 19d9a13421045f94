import TerraLint.Rule.BackendType
import TerraLint.Rule.Comments
import TerraLint.Rule.FileContent
import TerraLint.Rule.LowercaseName
import TerraLint.Rule.MetaArguments
import TerraLint.Rule.ModuleStructure
import TerraLint.Rule.ResourceName
import TerraLint.RuleSet

/-!
# The rules of the linter

All rules, in the order in which they are run, made from settings
(`Builtin.rules`), and the rule set of them (`Builtin.ruleSet`).
-/

namespace TerraLint.Builtin

/-- The version of the rules. -/
def version : String := "0.1.0"

/-- The rules with the options that the settings give them. The first error in the order
of the rules counts. -/
def rules (settings : Settings) : Except RuleError (List Rule) := do
  let pattern ← ResourceName.NamePattern.ofSettings (settings.rule? ResourceName.name)
  let layout ← ModuleStructure.Layout.ofSettings (settings.rule? ModuleStructure.name)
  let types ← BackendType.typesOfSettings (settings.rule? BackendType.name)
  return [
    Comments.rule,
    FileContent.rule,
    ResourceName.rule pattern,
    ModuleStructure.rule layout,
    BackendType.rule types,
    MetaArguments.rule,
    LowercaseName.rule]

/-- The rules with their default options. -/
def defaultRules : List Rule := (rules {}).toOption.getD []

/-- The rule set of all rules. -/
def ruleSet (settings : Settings) : Except RuleError RuleSet := do
  return { name := rulePrefix, version := version, rules := ← rules settings,
           chosen := some settings.coverage }

end TerraLint.Builtin
