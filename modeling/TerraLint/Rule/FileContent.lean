import TerraLint.Rule
import TerraLint.Rule.Spacing
import TerraLint.Text.Blank

/-!
# The layout of files

A file begins with a line that is not empty, ends with a line feed, and separates
its top-level blocks by one empty line. The last part is not asked of files in the
other notation.
-/

namespace TerraLint.FileContent

/-- What is said of a block too close to the one before, or too far from it. -/
def spacingMessage : String := "Objects should be delimited with one empty line"

/-- What is said of a file that does not end with a line feed. -/
def lastLineMessage : String := "There is no empty line at the end of file"

/-- How the rule is named and described. -/
def info : RuleInfo where
  name := "tfstyle_file_content"
  code := "TFS002"
  description :=
    "Files start with content, end with a newline, and separate blocks with one empty line"

/-- A file of more than one line must not begin with a blank one. -/
def checkFirstLine (file : SourceFile) : Check Unit := do
  let text := file.content.toList
  if text.contains '\n' && (text.takeWhile (· != '\n')).all Text.isBlank then
    info.report ⟨"File \"" ++ file.name ++ "\" starts with an empty line",
      .point file.name .start⟩

/-- The start of the last line of a text, by counting its line feeds and the bytes up to
behind the last one. -/
def lastLineStart (text : List Char) : Position :=
  let lastLine := (text.reverse.takeWhile (· != '\n')).length
  ⟨text.count '\n' + 1, 1, byteLength (text.take (text.length - lastLine))⟩

/-- A file that is not empty must end with a line feed. -/
def checkLastLine (file : SourceFile) : Check Unit := do
  let text := file.content.toList
  unless text.isEmpty || text.getLast? == some '\n' do
    info.report ⟨lastLineMessage, .point file.name (lastLineStart text)⟩

/-- Reports what is wrong with the layout of a file. Top-level blocks must be separated by
one empty line; this is not asked of files in the other notation. -/
def checkFile (project : Project) (file : SourceFile) : Check Unit := do
  checkFirstLine file
  checkLastLine file
  unless file.isJson do
    (Spacing.violations (← project.tokens file.name)).forM fun t =>
      info.report ⟨spacingMessage, t.span⟩

/-- The rule on the layout of files. -/
def rule : Rule where
  toRuleInfo := info
  check project := project.files.forM (checkFile project)

end TerraLint.FileContent
