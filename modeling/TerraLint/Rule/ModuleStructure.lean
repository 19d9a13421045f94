import TerraLint.Rule.Configured

/-!
# Files of their own for block types

Some block types have a file of their own. Their blocks stand there and nowhere
else, and no other blocks stand there. By default these are the variables and the
outputs of a module; the option `files` gives another table from block types to
files.
-/

namespace TerraLint.ModuleStructure

/-- The name of the rule. -/
def name : String := "tfstyle_module_structure"

/-- The files of block types, ordered by type. A type occurs once. -/
structure Layout where
  files : List (String × String)
  deriving DecidableEq, Repr

namespace Layout

/-- The layout of modules by default. -/
def default : Layout := ⟨[("output", "outputs.tf"), ("variable", "variables.tf")]⟩

/-- Puts a type with its file into its place in the order. -/
def insert (type file : String) : List (String × String) → List (String × String)
  | [] => [(type, file)]
  | (other, otherFile) :: rest =>
    if type < other then (type, file) :: (other, otherFile) :: rest
    else if type = other then (type, file) :: rest
    else (other, otherFile) :: insert type file rest

/-- Checks files from the first to the last type: a file is a plain name, and no earlier
type has it. `seen` are the earlier types. -/
def check (seen : List (String × String)) : List (String × String) → Except RuleError Unit
  | [] => .ok ()
  | (type, file) :: rest =>
    if file = "" ∨ file.toList.contains '/' then .error (.notPlainFile name type file)
    else
      match seen.find? fun entry => entry.2 == file with
      | some (other, _) => .error (.sharedFile name other type file)
      | none => check (seen ++ [(type, file)]) rest

/-- The layout that a list of types and files describes; of two files for a type the later
counts. -/
def ofList (files : List (String × String)) : Except RuleError Layout := do
  let files := files.foldl (fun sorted (type, file) => insert type file sorted) []
  check [] files
  return ⟨files⟩

/-- The layout that the settings ask for. -/
def ofSettings (settings : Option RuleSettings) : Except RuleError Layout := do
  match ← RuleSettings.optionOf settings name "files" Toml.asTextTable? with
  | some files => ofList files
  | none => return default

/-- The file for blocks of a type, if they have one. -/
def fileOf? (layout : Layout) (type : String) : Option String := layout.files.lookup type

/-- The type that a file is for, if it is for one. -/
def typeOf? (layout : Layout) (file : String) : Option String :=
  (layout.files.find? fun entry => entry.2 == file).map Prod.fst

end Layout

/-- The last part of a path. -/
def baseName (path : String) : String :=
  String.ofList (path.toList.reverse.takeWhile (· != '/')).reverse

/-- The path of a file beside another one. -/
def sibling (path file : String) : String :=
  String.ofList (path.toList.reverse.dropWhile (· != '/')).reverse ++ file

/-- What a declaration is called in messages. -/
def subject (d : Declaration) : String :=
  match d.name? with
  | some name => d.type ++ " \"" ++ name ++ "\""
  | none => d.type

/-- How the rule is named and described. -/
def info : RuleInfo where
  name := name
  code := "TFS004"
  description := "Variables and outputs are declared in variables.tf and outputs.tf only"

/-- Reports a declaration outside the file for its type. -/
def checkPlacement (layout : Layout) (d : Declaration) : Check Unit := do
  if let some file := layout.fileOf? d.type then
    unless baseName d.file = file do
      info.report
        ⟨subject d ++ " should be moved from " ++ d.file ++ " to " ++ sibling d.file file ++ " file",
          d.header⟩

/-- Reports a declaration in a file for another type. -/
def checkDedicatedFile (layout : Layout) (d : Declaration) : Check Unit := do
  if let some type := layout.typeOf? (baseName d.file) then
    unless type = d.type do
      info.report
        ⟨"There should be no blocks other than " ++ type ++ " in " ++ d.file ++ " file", d.span⟩

/-- The rule that block types with a file of their own are kept there. -/
def rule (layout : Layout) : Rule where
  toRuleInfo := info
  check project := do
    let m ← project.module
    m.declarations.forM (checkPlacement layout)
    m.declarations.forM (checkDedicatedFile layout)

end TerraLint.ModuleStructure
