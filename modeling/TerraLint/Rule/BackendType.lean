import TerraLint.Rule.Configured

/-!
# The type of the backend

The backend of a module, if it declares one, is of an allowed type. The option
`allowed_types` lists the types.
-/

namespace TerraLint.BackendType

/-- The name of the rule. -/
def name : String := "tfstyle_backend_type"

/-- The types that are allowed by default. -/
def defaultTypes : List String := ["azurerm", "s3"]

/-- A list of types to allow; there has to be one. -/
def checkTypes (types : List String) : Except RuleError (List String) :=
  if types.isEmpty then .error (.noAllowedTypes name) else .ok types

/-- The types that the settings allow. -/
def typesOfSettings (settings : Option RuleSettings) : Except RuleError (List String) := do
  checkTypes ((← RuleSettings.optionOf settings name "allowed_types" Toml.asTexts?).getD
    defaultTypes)

/-- What is said of a backend of another type. -/
def message (types : List String) (actual : String) : String :=
  let allowed :=
    match types.map fun t => "\"" ++ t ++ "\"" with
    | [single] => single
    | many => "one of " ++ ", ".intercalate many
  "backend type should be " ++ allowed ++ " but defined: \"" ++ actual ++ "\""

/-- How the rule is named and described. -/
def info : RuleInfo where
  name := name
  code := "TFS005"
  description := "The state backend must be one of the allowed types"

/-- The rule that the backend is of an allowed type. -/
def rule (types : List String) : Rule where
  toRuleInfo := info
  check project := do
    if let some backend := (← project.module).backend then
      unless types.contains backend.type do
        info.report ⟨message types backend.type, backend.header⟩

end TerraLint.BackendType
