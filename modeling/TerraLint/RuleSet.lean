import TerraLint.Report
import TerraLint.Rule
import TerraLint.Settings
import TerraLint.Text.Quoted

/-!
# Rule sets

A rule set is a list of rules that are run together, under a name and a version.
`RuleSet.check` runs those rules on a project that the settings leave on. A rule
that stops early is reported as a failure, with the issues that it has found up
to then, and the other rules run all the same.
-/

namespace TerraLint

/-- How a choice of modules is called. -/
def Coverage.describe : Coverage → String
  | rootOnly => "RootOnly"
  | allModules => "AllModules"

/-- Rules that are run together. -/
structure RuleSet where
  name : String
  version : String
  rules : List Rule := []
  /-- Which modules the rules are run on, if that has been chosen. -/
  chosen : Option Coverage := none

namespace RuleSet

/-- The rule set with further rules. -/
def add (set : RuleSet) (rules : List Rule) : RuleSet :=
  { set with rules := set.rules ++ rules }

/-- The rule set run on the given modules. -/
def cover (set : RuleSet) (coverage : Coverage) : RuleSet :=
  { set with chosen := some coverage }

/-- The rule set run on the given modules, unless a choice has been made before. -/
def coverByDefault (set : RuleSet) (coverage : Coverage) : RuleSet :=
  { set with chosen := set.chosen.or (some coverage) }

/-- Which modules the rules are run on. -/
def coverage (set : RuleSet) : Coverage := set.chosen.getD .rootOnly

/-- The names of the rules. -/
def ruleNames (set : RuleSet) : List String := set.rules.map fun rule => rule.name

/-- The rule set on one line, for logs. -/
def describe (set : RuleSet) : String :=
  "RuleSet \x7b name: " ++ Text.quoted set.name ++ ", version: " ++ Text.quoted set.version ++
    ", rules: [" ++ ", ".intercalate (set.ruleNames.map Text.quoted) ++ "], policy: " ++
    set.coverage.describe ++ " \x7d"

/-- Runs a rule on a project: the issues, with the severity from the settings if there is
one, and the failure if it stopped early. -/
def checkRule (settings : Settings) (project : Project) (rule : Rule) : Report :=
  let (issues, stopped) := rule.run settings.scan.maxIssues project
  let issues :=
    match settings.severity? rule.name with
    | some severity => issues.map fun issue => { issue with severity }
    | none => issues
  { issues
    failures := stopped.toList.map fun cause => ⟨rule.name, project.path, cause.message⟩ }

/-- Runs the rules that are on, if they are to be run on the module at all. -/
def check (set : RuleSet) (settings : Settings) (project : Project) : Report :=
  if set.coverage = .rootOnly ∧ !project.isRoot then {}
  else
    (set.rules.filter fun rule => settings.isEnabled rule.name rule.enabled).foldl
      (fun report rule => report ++ checkRule settings project rule) { modulesChecked := 1 }

end RuleSet

end TerraLint
