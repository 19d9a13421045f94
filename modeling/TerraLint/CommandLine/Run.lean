import TerraLint.Analysis
import TerraLint.CommandLine.Rendering
import TerraLint.Settings.Template

/-!
# Running commands

A command runs on a tree of files and gives an outcome: what is printed, the exit
code, the notes that go to the log, an error if it could not be done, and the
tree of files afterwards. Only `init` changes the tree.

The settings of a check come from the file that the command line or the
environment names; else from a file beside the module, or in the working
directory, or in the user's own directory, whichever is found first; else they are
the default.
-/

namespace TerraLint

/-- Why a command could not be done. -/
inductive CommandError where
  /-- A settings file that is missing or is none. -/
  | settings (path : String)
  | rules (cause : RuleError)
  /-- The analysis that is asked for makes no sense. -/
  | request (cause : AnalysisError)
  | analysis (cause : AnalysisError)
  /-- There is a settings file already. -/
  | alreadyThere
  /-- There is a directory in the place of the settings file. -/
  | inTheWay
  /-- The settings file must not be replaced. -/
  | denied
  deriving DecidableEq, Repr

namespace CommandError

/-- The error as it is reported. -/
def message : CommandError → String
  | settings path => "Failed to load config: " ++ path
  | rules _ => "Invalid rule configuration"
  | request _ => "Failed to build analyzer"
  | analysis _ => "Analysis failed"
  | alreadyThere =>
    "Configuration file already exists at tfstyle.toml. Use --force to overwrite."
  | inTheWay => "Is a directory (os error 21)"
  | denied => "Permission denied (os error 13)"

/-- What is behind the error, if there is more to say. -/
def cause? : CommandError → Option String
  | rules cause => some cause.message
  | request cause => some cause.message
  | analysis cause => some cause.message
  | _ => none

end CommandError

/-- What comes of a command. -/
structure Outcome where
  exitCode : Nat := 0
  output : String := ""
  notes : List String := []
  error : Option CommandError := none
  tree : FileTree

/-- The environment of the program. -/
structure Environment where
  /-- The path of a settings file. -/
  settingsPath : Option String := none
  /-- The directory of the user's own settings. -/
  settingsDirectory : Option String := none
  /-- The user's directory. -/
  home : Option String := none
  deriving DecidableEq, Repr

/-! ### Settings files -/

/-- The names of settings files beside a module, in the order in which they are looked
for. -/
def settingsNames : List String := ["tfstyle.toml", ".tfstyle.toml"]

/-- A path at which a settings file is looked for, and the path that is shown for it. -/
structure SettingsPath where
  path : String
  shown : String := path
  deriving DecidableEq, Repr

namespace Environment

/-- The directory of the user's own settings. -/
def userDirectory? (e : Environment) : Option String :=
  e.settingsDirectory.or (e.home.map (joinPath · ".tfstyle"))

/-- The paths at which a settings file for the module at a path is looked for, in order. -/
def candidates (e : Environment) (w : Workspace) (modulePath : String) : List SettingsPath :=
  settingsNames.map (fun name => { path := joinPath modulePath name }) ++
    settingsNames.map (fun name => ⟨name, joinPath w.currentPath name⟩) ++
    (e.userDirectory?.map fun directory => { path := joinPath directory "config.toml" }).toList

end Environment

/-- The settings of the file at a path. -/
def Settings.load (w : Workspace) (file : SettingsPath) : Except CommandError Settings :=
  match ((w.get? file.path).bind FileTree.text?).bind Settings.ofText? with
  | some settings => .ok settings
  | none => .error (.settings file.shown)

/-- The settings for a check of the module at a path, given the path of a settings file if
one is named. -/
def Settings.find (e : Environment) (w : Workspace) (modulePath : String)
    (named : Option String) : Except CommandError Settings :=
  let found := (e.candidates w modulePath).find? fun file => w.isFile file.path
  match (named.map fun path => { path }).or found with
  | some file => load w file
  | none => .ok {}

/-- The settings with a rule turned on. -/
def Settings.enable (s : Settings) (name : String) : Settings :=
  match s.rule? name with
  | some _ =>
    { s with rules := s.rules.map fun (other, own) =>
        (other, if other = name then { own with enabled := some true } else own) }
  | none => { s with rules := s.rules ++ [(name, { enabled := some true })] }

/-! ### Selected rules -/

/-- The stretches of a text between commas. -/
def splitCommas : List Char → List (List Char)
  | [] => [[]]
  | c :: rest =>
    if c = ',' then [] :: splitCommas rest
    else
      match splitCommas rest with
      | [] => [[c]]
      | part :: parts => (c :: part) :: parts

/-- A selection of rules: the rules, the settings in which they are on, and notes about
names that are no rules and about rules that had been off. -/
structure Selection where
  rules : List Rule
  settings : Settings
  notes : List String := []

namespace Selection

/-- The name or code is that of the rule. -/
def names (rule : Rule) (word : String) : Bool := rule.name == word || rule.code == word

/-- Turns rules on that are off. -/
def enableAll (settings : Settings) : List Rule → Settings × List String
  | [] => (settings, [])
  | rule :: rest =>
    if settings.isEnabled rule.name rule.enabled then enableAll settings rest
    else
      let (settings, notes) := enableAll (settings.enable rule.name) rest
      (settings,
        ("Enabling " ++ rule.name ++ " for this run (selected with --rules)") :: notes)

/-- The words of a text: what stands between its commas, without blanks around it. -/
def words (text : String) : List String :=
  (splitCommas text.toList).map fun part => String.ofList (Text.trim part)

/-- Selects the rules that a text names, by names or codes between commas. -/
def ofText (rules : List Rule) (settings : Settings) (text : String) : Selection :=
  let words := words text
  let unknown := words.filter fun word => !rules.any (names · word)
  let selected := rules.filter fun rule => words.any (names rule)
  let (settings, enabled) := enableAll settings selected
  ⟨selected, settings, unknown.map ("Unknown rule: " ++ ·) ++ enabled⟩

/-- Selects the rules that a text names, or all of them if there is no text. -/
def ofText? (rules : List Rule) (settings : Settings) : Option String → Selection
  | some text => ofText rules settings text
  | none => ⟨rules, settings, []⟩

end Selection

/-! ### Commands -/

namespace Command

/-- The outcome of a command that could not be done. -/
def failed (tree : FileTree) (error : CommandError) (notes : List String) : Outcome :=
  { exitCode := 1, error := some error, notes, tree }

/-- The analysis that a check asks for, with rules that have been selected. -/
def request (options : CheckOptions) (selection : Selection) : Request where
  root := some options.path
  ruleSet := { name := rulePrefix, version := Builtin.version, rules := selection.rules }
  exclude := options.exclude
  recursive := if options.recursive then some true else none
  settings := selection.settings

/-- The report on an analysis that is asked for. -/
def report (w : Workspace) (request : Request) : Except CommandError Report := do
  let analysis ← (Analysis.prepare w request).mapError .request
  (analysis.run w.tree).mapError .analysis

/-- Checks with rules that have been selected. -/
def checkSelected (w : Workspace) (options : CheckOptions) (selection : Selection) : Outcome :=
  match report w (request options selection) with
  | .error error => failed w.tree error selection.notes
  | .ok report =>
    { exitCode := if report.hasErrors || report.hasFailures then 1 else 0
      output := report.render options.format
      notes := selection.notes
      tree := w.tree }

/-- Checks a module. -/
def runCheck (e : Environment) (w : Workspace) (settingsPath : Option String)
    (options : CheckOptions) : Outcome :=
  match Settings.find e w options.path settingsPath with
  | .error error => failed w.tree error []
  | .ok settings =>
    match Builtin.rules settings with
    | .error cause => failed w.tree (.rules cause) []
    | .ok rules => checkSelected w options (.ofText? rules settings options.rules)

/-- Writes a settings file into the working directory. One that is there is replaced only by
force, and if there is the permission for it. -/
def runInit (w : Workspace) (force : Bool) : Outcome :=
  let place := w.current ++ [EntryName.text "tfstyle.toml"]
  let old := w.tree.get? place
  if old.isSome && !force then failed w.tree .alreadyThere []
  else if old.any FileTree.isDirectory then failed w.tree .inTheWay []
  else if old.any fun file => file.content?.isNone then failed w.tree .denied []
  else
    { output := onLines ["Created tfstyle.toml", "", "Next steps:",
        "  1. Edit tfstyle.toml to configure rules", "  2. Run: tfstyle check"]
      tree := FileTree.put (.file Settings.template.toUTF8) place w.tree }

end Command

/-- Runs the program with arguments. -/
def runProgram (e : Environment) (w : Workspace) (arguments : List String) : Outcome :=
  match Invocation.read e.settingsPath arguments with
  | .error .usage => { exitCode := 2, tree := w.tree }
  | .error .help => { tree := w.tree }
  | .error .version => { output := onLines ["tfstyle " ++ Builtin.version], tree := w.tree }
  | .ok invocation =>
    match invocation.command with
    | .check options => Command.runCheck e w invocation.settingsPath options
    | .listRules => { output := Builtin.table, tree := w.tree }
    | .init force => Command.runInit w force

end TerraLint
