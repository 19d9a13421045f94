import TerraLint.Source.Span

/-!
# Issues

An issue is what a rule has to say about a stretch of a file: which rule it was,
how severe it is, the message, and, for some rules, a link to read more.
-/

namespace TerraLint

/-- How severe an issue is, from the least to the most. -/
inductive Severity where
  | notice
  | warning
  | error
  deriving DecidableEq, Repr

namespace Severity

/-- The place of a severity in the order of severities. -/
def rank : Severity → Nat
  | notice => 0
  | warning => 1
  | error => 2

instance : LT Severity := ⟨fun a b => a.rank < b.rank⟩

instance (a b : Severity) : Decidable (a < b) := inferInstanceAs (Decidable (a.rank < b.rank))

/-- The word for a severity, in messages and in files. -/
def describe : Severity → String
  | notice => "notice"
  | warning => "warning"
  | error => "error"

/-- The severity that a word stands for. -/
def ofWord? : String → Option Severity
  | "notice" => some notice
  | "warning" => some warning
  | "error" => some error
  | _ => none

end Severity

/-- An issue that a rule has found. -/
structure Issue where
  rule : String
  severity : Severity
  message : String
  span : Span
  link : Option String
  deriving DecidableEq, Repr

namespace Issue

/-- The issue on one line: place, severity, rule, message, and the link if there is one. -/
def describe (issue : Issue) : String :=
  issue.span.file ++ ":" ++ toString issue.span.start.line ++ ":" ++
    toString issue.span.start.column ++ ": " ++ issue.severity.describe ++
    " [" ++ issue.rule ++ "] " ++ issue.message ++
    match issue.link with
    | some link => " (see: " ++ link ++ ")"
    | none => ""

/-- The headline over a shown snippet: rule and message. -/
def headline (issue : Issue) : String :=
  "[" ++ issue.rule ++ "] " ++ issue.message

/-- The advice under a shown snippet. -/
def help? (issue : Issue) : Option String :=
  issue.link.map ("see " ++ ·)

/-- The label in a shown snippet: its text, the byte it points at, and how many bytes. -/
def label (issue : Issue) : String × Nat × Nat :=
  (issue.severity.describe, issue.span.start.byte, issue.span.length)

end Issue

end TerraLint
