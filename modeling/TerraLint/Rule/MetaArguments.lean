import TerraLint.Rule

/-!
# Meta-arguments first

The meta-arguments `for_each` and `count` say how many instances a resource has.
Either of them stands on the line right below the header of its resource, and an
empty line separates it from the first of the other arguments. The two are looked
at one by one; nested blocks are no arguments.
-/

namespace TerraLint.MetaArguments

/-- The meta-arguments, in the order in which they are looked at. -/
def names : List String := ["for_each", "count"]

/-- What is said of a meta-argument further down. -/
def firstMessage : String :=
  "for_each/count should go as first argument on first line in resource"

/-- What is said of an argument that follows too closely, or too far below. -/
def delimitedMessage : String :=
  "for_each/count should be delimited by empty line after it"

/-- The attribute that starts on the earliest line; of several on one line the first. -/
def earliest? : List Attribute → Option Attribute
  | [] => none
  | a :: rest =>
    match earliest? rest with
    | none => some a
    | some b => if b.span.start.line < a.span.start.line then some b else some a

/-- The first argument of a resource that is no meta-argument. -/
def nextArgument? (resource : Declaration) : Option Attribute :=
  earliest? (resource.attributes.filter fun a => !names.contains a.name)

/-- How the rule is named and described. -/
def info : RuleInfo where
  name := "tfstyle_foreach_count"
  code := "TFS006"
  description := "for_each/count go first in a resource, followed by an empty line"

/-- Reports what is wrong with the place of a meta-argument. -/
def checkArgument (resource : Declaration) (argument : Attribute) : Check Unit := do
  if argument.span.start.line ≠ resource.header.stop.line + 1 then
    info.report ⟨firstMessage, argument.span⟩
  else if let some next := nextArgument? resource then
    if next.span.start.line ≠ argument.span.stop.line + 2 then
      info.report ⟨delimitedMessage, next.span⟩

/-- Reports what is wrong with the meta-arguments of a resource. -/
def checkResource (resource : Declaration) : Check Unit :=
  names.forM fun name => do
    if let some argument := resource.attribute? name then checkArgument resource argument

/-- The rule that meta-arguments come first. -/
def rule : Rule where
  toRuleInfo := info
  check project := do
    (← project.module).resources.forM fun r => checkResource r.declaration

end TerraLint.MetaArguments
