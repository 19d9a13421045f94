import TerraLint.Rule
import TerraLint.Text.Lowercase

/-!
# Lower-case resource names

A resource's name equals its lower-case form. The rule is off unless the
configuration turns it on, since the pattern for resource names asks for more.
-/

namespace TerraLint.LowercaseName

/-- What is said of a resource whose name is not in lower case. -/
def message (r : Resource) : String :=
  "name \"" ++ r.name ++ "\" is not lowercased, address: \"" ++ r.address ++ "\""

/-- How the rule is named and described. -/
def info : RuleInfo where
  name := "tfstyle_resource_name_lowercased"
  code := "TFS007"
  description := "Resource names are lowercased"
  enabled := false

/-- The rule that resource names are in lower case. -/
def rule : Rule where
  toRuleInfo := info
  check project := do
    (← project.module).resources.forM fun r => do
      unless r.name == Text.lowercase r.name do
        info.report ⟨message r, r.declaration.header⟩

end TerraLint.LowercaseName
