import TerraLint.Issue
import TerraLint.Project

/-!
# Rules

A rule checks a project and finds fault with stretches of its files. It reports
what it finds as it goes, one issue after the other, to a `Collector`. The number
of issues of one run can be limited: a collector refuses the first issue above its
limit.

A check (`Check`) ends early when an issue is refused, and when something that it
reads of the project is missing or broken. The issues that it has reported before
count all the same.
-/

namespace TerraLint

/-- What a rule has to say about a stretch of a file. -/
structure Finding where
  message : String
  span : Span
  deriving DecidableEq, Repr

/-- A collection of issues with a limit on their number. -/
structure Collector where
  limit : Option Nat := none
  issues : List Issue := []
  deriving DecidableEq, Repr

namespace Collector

/-- Why the collector takes no further issue, if it does not. -/
def refusal? (c : Collector) : Option CheckError :=
  match c.limit with
  | some limit => if limit ≤ c.issues.length then some (.issueLimit limit) else none
  | none => none

/-- Takes an issue, unless the limit has been reached. -/
def emit (c : Collector) (issue : Issue) : Except CheckError Unit × Collector :=
  match c.refusal? with
  | some cause => (.error cause, c)
  | none => (.ok (), { c with issues := c.issues ++ [issue] })

end Collector

/-- A computation that reports issues to a collector, and that can end early. -/
abbrev Check := ExceptT CheckError (StateM Collector)

namespace Check

/-- Reports an issue. -/
def emit (issue : Issue) : Check Unit := fun c => c.emit issue

/-- What a check reports to a new collector, and why it ended early, if it did. -/
def collect (check : Check Unit) (limit : Option Nat) : List Issue × Option CheckError :=
  match check.run.run { limit } with
  | (.ok (), collector) => (collector.issues, none)
  | (.error cause, collector) => (collector.issues, some cause)

end Check

/-- How a rule is named and described. -/
structure RuleInfo where
  name : String
  code : String
  description : String
  enabled : Bool := true
  severity : Severity := .error
  link : String := ""

namespace RuleInfo

/-- The issue that a finding of the rule is. -/
def issue (rule : RuleInfo) (finding : Finding) : Issue where
  rule := rule.name
  severity := rule.severity
  message := finding.message
  span := finding.span
  link := if rule.link = "" then none else some rule.link

/-- Reports a finding of the rule. -/
def report (rule : RuleInfo) (finding : Finding) : Check Unit := .emit (rule.issue finding)

end RuleInfo

/-- A rule: how it is named and described, and how it checks a project. -/
structure Rule extends RuleInfo where
  check : Project → Check Unit

/-- The names of all rules of the linter begin with this word. -/
def rulePrefix : String := "tfstyle"

/-- Runs the rule on a project: the issues up to the limit, and why it ended early, if it
did. -/
def Rule.run (rule : Rule) (limit : Option Nat) (project : Project) :
    List Issue × Option CheckError :=
  (rule.check project).collect limit

end TerraLint
