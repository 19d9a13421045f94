import TerraLint.Rule

/-!
# Line comments

The configuration language has two notations for line comments, and this rule
keeps a module to one of them: a comment begins with two slashes. Block comments
are left alone.
-/

namespace TerraLint.Comments

/-- What is said of a comment in the other notation. -/
def message : String := "Single line comments should begin with \"//\""

/-- The comment is a line comment in the other notation. -/
def isHashComment (source : String) (t : Token) : Bool :=
  t.kind == .comment && (t.text source).toList.head? == some '#'

/-- How the rule is named and described. -/
def info : RuleInfo where
  name := "tfstyle_comments"
  code := "TFS001"
  description := "Single line comments must use // instead of #"

/-- Reports the comments of a file that are in the other notation. -/
def checkFile (project : Project) (file : SourceFile) : Check Unit := do
  unless file.isJson do
    (← project.tokens file.name).forM fun t => do
      if isHashComment file.content t then info.report ⟨message, t.span⟩

/-- The rule that line comments begin with two slashes. -/
def rule : Rule where
  toRuleInfo := info
  check project := project.files.forM (checkFile project)

end TerraLint.Comments
