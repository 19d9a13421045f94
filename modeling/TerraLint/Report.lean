import TerraLint.Issue

/-!
# Reports

The outcome of a run: the issues in the order in which they were found, the rules
that could not be run to their end, and how many files and modules were looked at.
Reports are put together from the reports of single modules (`Report.append`).
-/

namespace TerraLint

/-- A rule that could not be run to its end on a module. -/
structure Failure where
  rule : String
  /-- The path of the module; empty for the root module. -/
  module : List String
  message : String
  deriving DecidableEq, Repr

/-- The failure on one line. -/
def Failure.describe (f : Failure) : String :=
  if f.module.isEmpty then f.rule ++ " failed: " ++ f.message
  else f.rule ++ " failed in module " ++ "/".intercalate f.module ++ ": " ++ f.message

/-- The outcome of a run. -/
structure Report where
  issues : List Issue := []
  failures : List Failure := []
  filesChecked : Nat := 0
  modulesChecked : Nat := 0
  deriving DecidableEq, Repr

namespace Report

/-- The report of nothing. -/
def empty : Report := {}

/-- One report after the other. -/
def append (a b : Report) : Report where
  issues := a.issues ++ b.issues
  failures := a.failures ++ b.failures
  filesChecked := a.filesChecked + b.filesChecked
  modulesChecked := a.modulesChecked + b.modulesChecked

instance : Append Report := ⟨append⟩

/-- The number of issues of a severity. -/
def count (r : Report) (severity : Severity) : Nat :=
  r.issues.countP fun issue => issue.severity == severity

/-- Some issue is an error. -/
def hasErrors (r : Report) : Bool :=
  r.issues.any fun issue => issue.severity == .error

/-- Some rule could not be run to its end. -/
def hasFailures (r : Report) : Bool := !r.failures.isEmpty

end Report

end TerraLint
