import TerraLint.CommandLine.Run

/-!
# The program

The program takes a picture of the files that a command can look at, runs the
command on it, and prints what comes of it. Output goes to the output stream,
notes and errors to the error stream. `init` writes its file.
-/

open TerraLint

/-- A file of this name is looked at. -/
def isLookedAt (name : String) : Bool :=
  Discovery.isConfigurationFile name || settingsNames.contains name ||
    [".ignore", ".gitignore"].contains name

/-- The file at a path, with its content if it can be read. -/
def readFile (path : String) : IO FileTree := do
  try return .file (← IO.FS.readBinFile path) catch _ => return .unreadable

/-- The file or directory at a path, with the content of the files that are looked at. -/
partial def readTree (path : String) : IO FileTree := do
  let here ← IO.currentDir
  if ← (here / path).isDir then
    let found ← try some <$> (here / path).readDir catch _ => pure none
    match found with
    | none => return .unlistable []
    | some found =>
      let mut entries := []
      for entry in found do
        let name := entry.fileName
        let inner := joinPath path name
        if name == ".git" then entries := (.text name, ← readControl inner) :: entries
        else if (← entry.path.isDir) || isLookedAt name then
          entries := (.text name, ← readTree inner) :: entries
      return .directory entries
  else readFile path
where
  /-- What is looked at of the directory of version control. -/
  readControl (path : String) : IO FileTree := do
    let exclude := joinPath path "info/exclude"
    let here ← IO.currentDir
    if ← (here / exclude).pathExists then
      return FileTree.put (← readFile exclude) ["info", "exclude"] (.directory [])
    else return .directory []

/-- The tree with what is at a path, if there is something. -/
def addPath (tree : FileTree) (path : String) : IO FileTree := do
  let here ← IO.currentDir
  if ← (here / path).pathExists then
    let full := (← IO.FS.realPath path).toString
    return FileTree.put (← readTree full) (pathNames full) tree
  else return tree

/-- The tree with the ignore files of the directories above a path. -/
def addIgnoreFiles (tree : FileTree) (path : String) : IO FileTree := do
  let here ← IO.currentDir
  if ← (here / path).pathExists then
    let place := pathNames (← IO.FS.realPath path).toString
    let mut tree := tree
    for depth in List.range place.length do
      let above := "/" ++ "/".intercalate ((place.take depth).map EntryName.lossy)
      for name in [".ignore", ".gitignore", ".git/info/exclude"] do
        tree ← addPath tree (joinPath above name)
    return tree
  else return tree

/-- The files that a command can look at. -/
def takePicture (environment : Environment) (current : Place) (invocation : Invocation) :
    IO FileTree := do
  let tree := FileTree.makeDirectory (.directory []) current
  match invocation.command with
  | .check options =>
    let w : Workspace := ⟨tree, current⟩
    let mut tree ← addIgnoreFiles tree options.path
    tree ← addPath tree options.path
    let candidates := (environment.candidates w options.path).map SettingsPath.path
    for path in invocation.settingsPath.toList ++ candidates do
      let here ← IO.currentDir
      if !(← (here / path).isDir) then
        tree ← addPath tree path
    return tree
  | .init _ => addPath tree "tfstyle.toml"
  | .listRules => return tree

/-- Prints what comes of a command. -/
def report (outcome : Outcome) : IO Unit := do
  IO.print outcome.output
  for note in outcome.notes do
    IO.eprintln note
  if let some error := outcome.error then
    IO.eprintln ("Error: " ++ error.message)
    if let some cause := error.cause? then
      IO.eprintln ("\nCaused by:\n    " ++ cause)

/-- Runs the program. -/
def main (arguments : List String) : IO UInt32 := do
  let environment : Environment := {
    settingsPath := ← IO.getEnv "TFSTYLE_CONFIG"
    settingsDirectory := ← IO.getEnv "TFSTYLE_CONFIG_DIR"
    home := ← IO.getEnv "HOME" }
  let current := pathNames (← IO.currentDir).toString
  let invocation := Invocation.read environment.settingsPath arguments
  let tree ← match invocation with
    | .ok invocation => takePicture environment current invocation
    | .error _ => pure (.directory [])
  let outcome := runProgram environment ⟨tree, current⟩ arguments
  if let .ok ⟨_, .init _⟩ := invocation then
    if outcome.exitCode == 0 then
      IO.FS.writeFile "tfstyle.toml" Settings.template
  report outcome
  return outcome.exitCode.toUInt32
