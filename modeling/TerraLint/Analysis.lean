import TerraLint.Builtin
import TerraLint.Discovery

/-!
# Analysis of a directory

An analysis runs a rule set on the module in a directory and, if it is recursive,
on the child modules below it. What is asked for (`Request`) is checked first: the
directory has to exist and the patterns of files to leave out have to be patterns
(`Analysis.prepare`). Then the modules are found, and read and checked one by one, and
their reports put together (`Analysis.run`).

The files of a module are looked up by a pattern that is made of the path of its directory
as it is shown (`Analysis.listing`). So the search for modules and the reading of their
files meet only where the path is a text.
-/

namespace TerraLint

/-- What cannot be read. -/
inductive AccessError where
  /-- A directory in which modules are searched for. -/
  | search (path : String)
  /-- A malformed file that says what is ignored in the search. -/
  | ignoreFile (path : String)
  /-- A directory in which the files of a module are looked up. -/
  | listing
  /-- A file that must not be read. -/
  | denied (path : String)
  /-- A file whose bytes are no text. -/
  | notText (path : String)
  deriving DecidableEq, Repr

/-- The cause as messages show it. -/
def AccessError.message : AccessError → String
  | search path =>
    "Failed to walk directory: " ++ path ++ ": IO error for operation on " ++ path ++
      ": Permission denied (os error 13)"
  | ignoreFile path => "Failed to walk directory: " ++ path ++ ": error parsing glob"
  | listing => "IO error: Permission denied (os error 13)"
  | denied path => "Failed to read " ++ path ++ ": Permission denied (os error 13)"
  | notText path => "Failed to read " ++ path ++ ": stream did not contain valid UTF-8"

/-- Why there is no report. -/
inductive AnalysisError where
  | rootNotFound (path : String)
  | badPattern (e : GlobError)
  | unreadable (e : AccessError)
  deriving DecidableEq, Repr

/-- The cause as messages show it. -/
def AnalysisError.message : AnalysisError → String
  | rootNotFound path => "Root module directory not found: " ++ path
  | badPattern e => "Invalid glob pattern: " ++ e.message
  | unreadable e => e.message

/-- What is asked for. The settings say the rest. -/
structure Request where
  /-- The path of the directory; by default that of the settings. -/
  root : Option String := none
  ruleSet : RuleSet := { name := rulePrefix, version := Builtin.version }
  /-- Patterns of files to leave out, beside those of the settings. -/
  exclude : List String := []
  recursive : Option Bool := none
  settings : Settings := {}

/-- An analysis that can be run. -/
structure Analysis where
  /-- The path of the directory, from the root of the tree, as it is shown. -/
  root : String
  /-- The names that the path consists of. -/
  names : Place
  /-- The place that they lead to. -/
  place : Place
  ruleSet : RuleSet
  exclude : List Glob
  recursive : Bool
  settings : Settings

namespace Analysis

/-- The patterns that texts describe. The first that is none is reported. -/
def globs : List String → Except AnalysisError (List Glob)
  | [] => .ok []
  | text :: rest => do
    let glob ← (Glob.ofText text).mapError .badPattern
    return glob :: (← globs rest)

/-- Checks what is asked for. -/
def prepare (w : Workspace) (request : Request) : Except AnalysisError Analysis := do
  let settings := request.settings
  let path := request.root.getD settings.scan.root
  let root := joinPath w.currentPath path
  match w.place? path with
  | none => .error (.rootNotFound root)
  | some place =>
    if !w.isDirectory path then .error (.rootNotFound root)
    else
      let exclude ← globs (request.exclude ++ settings.scan.exclude)
      return {
        root, names := w.names path, place, exclude, settings
        ruleSet := request.ruleSet.coverByDefault settings.coverage
        recursive := request.recursive.getD settings.scan.recursive }

/-- The path without doubled slashes. -/
def singleSlashes : List Char → List Char
  | '/' :: '/' :: rest => singleSlashes ('/' :: rest)
  | c :: rest => c :: singleSlashes rest
  | [] => []

/-- The path of a file of the analysis, given its path from the directory. -/
def pathOf (a : Analysis) (path : String) : String :=
  String.ofList (singleSlashes (joinPath (a.root ++ "/") path).toList)

/-- The name under which a file is known to rules, given its path from the directory. Where the
path of the directory is no text, nothing can be taken relative to it. -/
def nameOf (a : Analysis) (path : String) : String :=
  if a.names.all EntryName.isText then path
  else
    let names := a.names.filter fun name => name != EntryName.text "."
    "/".intercalate ("/" :: names.map EntryName.lossy ++ [path])

/-- The name has a character with a meaning in patterns. -/
def isPatternLike (name : String) : Bool := name.toList.any ['?', '*', '[', ']'].contains

/-- The place that names lead to from a place, if they lead anywhere, when they are followed as
parts of a pattern. A name that looks like a pattern is searched for in the listing of its
directory. -/
def locate (tree : FileTree) : Place → List String → Except AccessError (Option Place)
  | place, [] => .ok (some place)
  | place, name :: rest =>
    if isPatternLike name && (tree.get? place).any FileTree.isUnlistable then .error .listing
    else
      match Workspace.step? tree place name with
      | some next => locate tree next rest
      | none => .ok none

/-- The entries of the directory that names lead to; none if they lead to no directory. -/
def listing (tree : FileTree) (names : List String) :
    Except AccessError (List (EntryName × FileTree)) := do
  let place ← locate tree [] names
  let found := place.bind tree.get?
  if found.any FileTree.isUnlistable then .error .listing
  else return (found.map FileTree.entries).getD []

/-- The files among entries whose names are texts and end in a given way, in the order of the
names. -/
def filesWith (suffix : String) (entries : List (EntryName × FileTree)) :
    List (String × FileTree) :=
  let files := entries.filterMap fun (name, tree) =>
    name.text?.bind fun text =>
      if text.endsWith suffix && !tree.isDirectory then some (text, tree) else none
  files.mergeSort fun a b => decide (a.1 ≤ b.1)

/-- Reads a file, given its path from the directory of the analysis. -/
def readFile (a : Analysis) (path : String) (file : FileTree) : Except AccessError String :=
  match file.content? with
  | none => .error (.denied (a.pathOf path))
  | some content =>
    match String.fromUTF8? content with
    | some text => .ok text
    | none => .error (.notText (a.pathOf path))

/-- Reads files, given by their paths from the directory of the analysis. The first that cannot be
read is reported. -/
def readFiles (a : Analysis) : List (String × FileTree) →
    Except AccessError (List (String × String))
  | [] => .ok []
  | (path, file) :: rest => do
    let text ← a.readFile path file
    return (a.nameOf path, text) :: (← a.readFiles rest)

/-- The names from the directory of the analysis to a place in it, as they are shown. -/
def shownNames (a : Analysis) (place : Place) : List String :=
  (place.drop a.place.length).map EntryName.lossy

/-- Reads the configuration files of a directory that are not left out. -/
def moduleFiles (a : Analysis) (tree : FileTree) (place : Place) :
    Except AccessError (List (String × String)) := do
  let dir := a.shownNames place
  let entries ← listing tree (a.names.map EntryName.lossy ++ dir)
  let files := (filesWith ".tf" entries ++ filesWith ".tf.json" entries).map fun (name, file) =>
    ("/".intercalate (dir ++ [name]), file)
  a.readFiles (files.filter fun (path, _) => !Discovery.isExcluded a.exclude (a.nameOf path))

/-- Checks the module in a directory. Its files count only if it is looked at. -/
def checkModule (a : Analysis) (tree : FileTree) (place : Place) :
    Except AnalysisError Report := do
  let files ← (a.moduleFiles tree place).mapError .unreadable
  let project := Project.ofFiles (a.shownNames place) files
  let report := a.ruleSet.check a.settings project
  if report.modulesChecked = 0 then return report
  else return { filesChecked := project.files.length } ++ report

/-- Checks modules one after the other. -/
def checkModules (a : Analysis) (tree : FileTree) : List Place → Except AnalysisError Report
  | [] => .ok {}
  | place :: rest => do
    let report ← a.checkModule tree place
    return report ++ (← a.checkModules tree rest)

/-- The path of a directory in which modules are searched for, as it is shown. -/
def searchPath (a : Analysis) (place : Place) : String :=
  if place = a.place then a.root else joinPath a.root (Discovery.relativeName a.place place)

/-- The error that a search for modules ends with. -/
def searchError (a : Analysis) : Discovery.SearchError → AccessError
  | .unlistable place => .search (a.searchPath place)
  | .malformed place => .ignoreFile ("/" ++ "/".intercalate (place.map EntryName.lossy))

/-- The places of the child modules, if they are searched for. -/
def childPlaces (a : Analysis) (tree : FileTree) : Except AnalysisError (List Place) :=
  if a.recursive then
    (Discovery.childModules a.settings.scan.respectGitignore a.exclude tree a.place).mapError
      fun e => .unreadable (a.searchError e)
  else .ok []

/-- Runs the analysis: the search for child modules, then the module of the directory and the
child modules. -/
def run (a : Analysis) (tree : FileTree) : Except AnalysisError Report := do
  let children ← a.childPlaces tree
  a.checkModules tree (a.place :: children)

end Analysis

end TerraLint
