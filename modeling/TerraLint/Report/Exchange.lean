import TerraLint.Json.Reader
import TerraLint.Report

/-!
# Reports as JSON

A report is written as an object with the fields `issues`, `failures`,
`files_checked` and `modules_checked`, the failures only when there are some, and
an issue's link only when it has one. Reading takes that form back, in any order
of the fields and with others among them, which are passed over. In place of an
object an array may give the fields in the order in which they are declared. A
field must not be given twice, and a count must be written without point and
exponent.
-/

namespace TerraLint

/-! ### Writing -/

namespace Position

/-- A position as JSON. -/
def toJson (p : Position) : Json :=
  .object [("line", .nat p.line), ("column", .nat p.column), ("byte", .nat p.byte)]

end Position

namespace Span

/-- A span as JSON. -/
def toJson (s : Span) : Json :=
  .object [("filename", .string s.file), ("start", s.start.toJson), ("end", s.stop.toJson)]

end Span

namespace Issue

/-- An issue as JSON. -/
def toJson (issue : Issue) : Json :=
  .object ([("rule", .string issue.rule), ("severity", .string issue.severity.describe),
      ("message", .string issue.message), ("range", issue.span.toJson)] ++
    match issue.link with
    | some link => [("link", .string link)]
    | none => [])

end Issue

namespace Failure

/-- A failure as JSON. -/
def toJson (f : Failure) : Json :=
  .object [("rule", .string f.rule), ("module", .array (f.module.map .string)),
    ("message", .string f.message)]

end Failure

namespace Report

/-- A report as JSON. -/
def toJson (r : Report) : Json :=
  .object ([("issues", .array (r.issues.map Issue.toJson))] ++
    (if r.failures.isEmpty then []
      else [("failures", .array (r.failures.map Failure.toJson))]) ++
    [("files_checked", .nat r.filesChecked), ("modules_checked", .nat r.modulesChecked)])

end Report

/-! ### Reading -/

namespace Json

/-- The values of the fields with given names, each if it is given. An array gives them in
order, and cannot give more than there are. -/
def fields? (names : List String) : Json → Option (List (Option Json))
  | .object pairs =>
    if names.all fun name => pairs.countP (fun pair => pair.1 == name) ≤ 1 then
      some (names.map fun name => pairs.lookup name)
    else none
  | .array items =>
    if items.length ≤ names.length then
      some (items.map some ++ List.replicate (names.length - items.length) none)
    else none
  | _ => none

/-- The text of a string. -/
def text? : Json → Option String
  | .string value => some value
  | _ => none

/-- The items of an array. -/
def items? : Json → Option (List Json)
  | .array items => some items
  | _ => none

/-- A count: digits only, and less than `2 ^ 64`. -/
def count? : Json → Option Nat
  | .number literal =>
    if literal.toList.all Text.isAsciiDigit then
      let n := literal.toList.foldl (fun value c => 10 * value + (c.toNat - '0'.toNat)) 0
      if n < 1 <<< 64 then some n else none
    else none
  | _ => none

/-- A severity: its word, or an object with the word as its only field and nothing in it. -/
def severity? : Json → Option Severity
  | .string word => Severity.ofWord? word
  | .object [(word, .null)] => Severity.ofWord? word
  | _ => none

end Json

namespace Position

/-- Reads a position back. -/
def ofJson? (value : Json) : Option Position := do
  match ← value.fields? ["line", "column", "byte"] with
  | [some line, some column, some byte] =>
    return ⟨← line.count?, ← column.count?, ← byte.count?⟩
  | _ => none

end Position

namespace Span

/-- Reads a span back. -/
def ofJson? (value : Json) : Option Span := do
  match ← value.fields? ["filename", "start", "end"] with
  | [some file, some start, some stop] =>
    return ⟨← file.text?, ← Position.ofJson? start, ← Position.ofJson? stop⟩
  | _ => none

end Span

namespace Issue

/-- Reads an issue back. A link may be missing or null. -/
def ofJson? (value : Json) : Option Issue := do
  match ← value.fields? ["rule", "severity", "message", "range", "link"] with
  | [some rule, some severity, some message, some span, link] =>
    let link ← match link with
      | none | some .null => pure none
      | some link => some <$> link.text?
    return ⟨← rule.text?, ← severity.severity?, ← message.text?, ← Span.ofJson? span, link⟩
  | _ => none

end Issue

namespace Failure

/-- Reads a failure back. -/
def ofJson? (value : Json) : Option Failure := do
  match ← value.fields? ["rule", "module", "message"] with
  | [some rule, some module, some message] =>
    return ⟨← rule.text?, ← (← module.items?).mapM Json.text?, ← message.text?⟩
  | _ => none

end Failure

namespace Report

/-- Reads a report back. The failures may be missing. -/
def ofJson? (value : Json) : Option Report := do
  match ← value.fields? ["issues", "failures", "files_checked", "modules_checked"] with
  | [some issues, failures, some files, some modules] =>
    let failures ← match failures with
      | none => pure []
      | some failures => (← failures.items?).mapM Failure.ofJson?
    return ⟨← (← issues.items?).mapM Issue.ofJson?, failures, ← files.count?, ← modules.count?⟩
  | _ => none

/-- The report that a text writes. -/
def ofText? (text : String) : Option Report := do
  ofJson? (← Json.read? text)

end Report

end TerraLint
