import TerraLint.Builtin
import TerraLint.CommandLine
import TerraLint.Report.Exchange

/-!
# What the program prints

Reports are printed in one of four formats. For readers there are the text format,
with colours, and the format with snippets, whose snippets go to the error stream
and are not part of the output here; for programs there are JSON and the compact
format with one issue on a line. The list of rules is a table.
-/

namespace TerraLint

/-- A text on lines of its own. -/
def onLines (lines : List String) : String := String.join (lines.map (· ++ "\n"))

/-- The switch back to the default colour. -/
def plainColour : String := "\x1b[0m"

namespace Severity

/-- The switch to the colour of a severity. -/
def colour : Severity → String
  | error => "\x1b[31m"
  | warning => "\x1b[33m"
  | notice => "\x1b[34m"

/-- The word for a severity in its colour. -/
def coloured (s : Severity) : String := s.colour ++ s.describe ++ plainColour

end Severity

namespace Report

/-- An issue in the text format. -/
def issueLines (issue : Issue) : List String :=
  [issue.rule ++ " at " ++ issue.span.file ++ ":" ++ toString issue.span.start.line ++ ":" ++
      toString issue.span.start.column,
    "  " ++ issue.severity.coloured ++ ": " ++ issue.message] ++
  (issue.link.toList.map fun link => "  = see: " ++ link) ++ [""]

/-- The failures, with an empty line behind them if there are some. -/
def failureLines (r : Report) : List String :=
  (r.failures.map fun f => Severity.error.colour ++ "rule failed" ++ plainColour ++ " " ++
    f.describe) ++ (if r.hasFailures then [""] else [])

/-- The line that counts the issues. -/
def summary (r : Report) : String :=
  "Found " ++ toString (r.count .error) ++ " error(s), " ++ toString (r.count .warning) ++
    " warning(s), " ++ toString (r.count .notice) ++ " notice(s) in " ++
    toString r.filesChecked ++ " file(s)"

/-- The colour of the summary: that of the worst that has happened, or green. -/
def summaryColour (r : Report) : String :=
  if 0 < r.count .error ∨ r.hasFailures then Severity.error.colour
  else if 0 < r.count .warning then Severity.warning.colour
  else "\x1b[32m"

/-- The report in a format. -/
def render (r : Report) : Format → String
  | .text =>
    onLines (r.issues.flatMap issueLines ++ r.failureLines ++
      [r.summaryColour ++ r.summary ++ plainColour])
  | .json => onLines [r.toJson.pretty]
  | .compact => onLines (r.issues.map Issue.describe ++ r.failures.map Failure.describe)
  | .pretty => onLines (r.failureLines ++ [r.summary])

end Report

/-- A text filled up with blanks on its right. -/
def padRight (width : Nat) (text : String) : String :=
  text ++ String.ofList (List.replicate (width - text.length) ' ')

namespace Builtin

/-- A line of the table of rules. -/
def tableLine (code name severity description : String) : String :=
  padRight 8 code ++ " " ++ padRight 26 name ++ " " ++ padRight 9 severity ++ " " ++ description

/-- The table of rules, with a word on how to use it. -/
def table : String :=
  onLines (["Rule set " ++ rulePrefix ++ " " ++ version, "",
      tableLine "Code" "Name" "Severity" "Description",
      String.ofList (List.replicate 96 '-')] ++
    (defaultRules.map fun rule =>
      tableLine rule.code rule.name rule.severity.describe rule.description) ++
    ["", "Child modules are skipped unless analyzer.root_module_only = false.", "",
      "Use --rules to filter specific rules, e.g.:",
      "  tfstyle check --rules tfstyle_comments,tfstyle_file_content",
      "  tfstyle check --rules TFS001,TFS002"])

end Builtin

end TerraLint
