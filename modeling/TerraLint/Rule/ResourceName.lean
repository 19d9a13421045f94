import TerraLint.Pattern.Reader
import TerraLint.Rule.Configured

/-!
# Names of resources

A resource's name matches a pattern. By default it asks for lower-case letters,
digits and underscores. The option `pattern` sets another one.
-/

namespace TerraLint.ResourceName

/-- The name of the rule. -/
def name : String := "tfstyle_resource_name"

/-- The pattern that names match by default. -/
def defaultText : String := "^[a-z0-9_]*$"

/-- What is said of a resource whose name does not match. -/
def message (r : Resource) : String :=
  "name should include only lowercase letters, digits or '_', address: \"" ++ r.address ++ "\""

/-- A pattern for names, as it was written and as it is used. -/
structure NamePattern where
  text : String
  pattern : Pattern

/-- The pattern for names that a text describes. -/
def NamePattern.ofText (text : String) : Except RuleError NamePattern :=
  match Pattern.ofText? text with
  | some pattern => .ok ⟨text, pattern⟩
  | none => .error (.invalidPattern name)

/-- The pattern that the settings ask for. -/
def NamePattern.ofSettings (settings : Option RuleSettings) : Except RuleError NamePattern := do
  let text ← RuleSettings.optionOf settings name "pattern" Toml.asText?
  NamePattern.ofText (text.getD defaultText)

/-- How the rule is named and described. -/
def info : RuleInfo where
  name := name
  code := "TFS003"
  description := "Resource names include only lowercase letters, digits or '_'"

/-- The rule that names of resources match a pattern. -/
def rule (pattern : NamePattern) : Rule where
  toRuleInfo := info
  check project := do
    (← project.module).resources.forM fun r => do
      unless pattern.pattern.isMatch r.name do
        info.report ⟨message r, r.declaration.header⟩

end TerraLint.ResourceName
