import TerraLint.FileTree
import TerraLint.Glob
import TerraLint.IgnoreFile

/-!
# Finding modules

The directories below a root that hold configuration files are its child modules.
The search does not enter directories and does not see files that are hidden or
ignored. Three kinds of files say what is ignored, for everything below their
directory: `.ignore`, and, where the tree is under version control, `.gitignore`
and the list of version control itself. An entry takes the verdict of the first
kind that has one, and within a kind that of the nearest directory. The last two
kinds do not reach beyond the directory that is under version control.

The search ends at the first directory that it enters and that cannot be listed. It does
not begin if one of the files above the root that say what is ignored is malformed; in and
below the root they may be.
-/

namespace TerraLint

/-- What a directory says about ignored entries below it. -/
structure IgnoreLevel where
  place : Place
  plain : List IgnoreRule
  versioned : List IgnoreRule
  excluded : List IgnoreRule
  /-- The directory is the top of a tree under version control. -/
  isTop : Bool

namespace IgnoreLevel

/-- The files that say what is ignored, by their places in a directory. -/
def files : List Place := [[".ignore"], [".gitignore"], [".git", "info", "exclude"]]

/-- The rules of a file of a directory; none if it is missing or cannot be read. -/
def rulesIn (tree : FileTree) (path : Place) : List IgnoreRule :=
  match (tree.get? path).bind FileTree.content? with
  | some content => IgnoreFile.rules content
  | none => []

/-- The level of a directory at a place. -/
def ofDirectory (respectGitignore : Bool) (place : Place) (tree : FileTree) : IgnoreLevel where
  place := place
  plain := rulesIn tree [".ignore"]
  versioned := if respectGitignore then rulesIn tree [".gitignore"] else []
  excluded := rulesIn tree [".git", "info", "exclude"]
  isTop := (tree.entry? ".git").isSome

/-- The levels up to the first that is the top of a tree under version control. -/
def upToTop : List IgnoreLevel → List IgnoreLevel
  | [] => []
  | level :: rest => if level.isTop then [level] else level :: upToTop rest

/-- The verdict of the nearest level that has one, by one kind of rules. -/
def nearest (levels : List IgnoreLevel) (rules : IgnoreLevel → List IgnoreRule) (place : Place)
    (isDirectory : Bool) : Option Bool :=
  levels.findSome? fun level =>
    IgnoreFile.verdict (rules level) (place.drop level.place.length) isDirectory

/-- Whether an entry is left out (`true`) or taken in (`false`) by the levels around it, the
nearest first; `none` if they do not say. -/
def verdict (levels : List IgnoreLevel) (place : Place) (isDirectory : Bool) : Option Bool :=
  let below := if levels.any isTop then upToTop levels else []
  ((nearest levels plain place isDirectory).or
    (nearest below versioned place isDirectory)).or (nearest below excluded place isDirectory)

end IgnoreLevel

namespace Discovery

/-- The name is one of a configuration file. -/
def isConfigurationFile (name : EntryName) : Bool :=
  name.text?.any fun text => text.endsWith ".tf" || text.endsWith ".tf.json"

/-- The entry at a place is not looked at. -/
def isSkipped (levels : List IgnoreLevel) (place : Place) (name : EntryName)
    (isDirectory : Bool) : Bool :=
  match IgnoreLevel.verdict levels place isDirectory with
  | some ignored => ignored
  | none => name.isHidden

mutual

/-- The places of the configuration files below a directory at a place, given the levels
above it, or the place of the first directory that cannot be listed. -/
def filesBelow (respectGitignore : Bool) (levels : List IgnoreLevel) (place : Place) :
    FileTree → Except Place (List Place)
  | .file _ => .ok []
  | .unreadable => .ok []
  | .unlistable _ => .error place
  | .directory entries =>
    let level := IgnoreLevel.ofDirectory respectGitignore place (.directory entries)
    filesAmong respectGitignore (level :: levels) place entries

/-- The places of the configuration files among entries of a directory and below them. -/
def filesAmong (respectGitignore : Bool) (levels : List IgnoreLevel) (place : Place) :
    List (EntryName × FileTree) → Except Place (List Place)
  | [] => .ok []
  | (name, tree) :: rest => do
    let here := place ++ [name]
    let found : Except Place (List Place) :=
      if isSkipped levels here name tree.isDirectory then .ok []
      else if tree.isDirectory then filesBelow respectGitignore levels here tree
      else if isConfigurationFile name then .ok [here]
      else .ok []
    return (← found) ++ (← filesAmong respectGitignore levels place rest)

end

/-- The levels of the directories on the way to a place, the nearest first. Without regard
for version control they do not count as tops. -/
def levelsAbove (respectGitignore : Bool) (tree : FileTree) (place : Place) : List IgnoreLevel :=
  ((List.range place.length).reverse.filterMap fun depth =>
    (tree.get? (place.take depth)).map fun inner =>
      let level := IgnoreLevel.ofDirectory respectGitignore (place.take depth) inner
      { level with isTop := level.isTop && respectGitignore })

/-- The first malformed file in the directories on the way to a place, from the top, that would
say what is ignored. -/
def malformedAbove? (respectGitignore : Bool) (tree : FileTree) (place : Place) : Option Place :=
  let read := IgnoreLevel.files.filter fun file =>
    respectGitignore || file != [EntryName.text ".gitignore"]
  (List.range place.length).findSome? fun depth =>
    (read.map (place.take depth ++ ·)).find? fun file =>
      ((tree.get? file).bind FileTree.content?).any IgnoreFile.isMalformed

/-- Puts a place among places in order, if it is not there. -/
def insertPlace (place : Place) : List Place → List Place
  | [] => [place]
  | other :: rest =>
    if place < other then place :: other :: rest
    else if place = other then other :: rest
    else other :: insertPlace place rest

/-- The path of an entry relative to the root, as it is shown. -/
def relativeName (root place : Place) : String :=
  "/".intercalate ((place.drop root.length).map EntryName.lossy)

/-- The path is left out by one of the patterns. -/
def isExcluded (exclude : List Glob) (name : String) : Bool :=
  exclude.any fun glob => glob.excludes name

/-- The directories of files, in the order of their places and without the root. -/
def directoriesOf (root : Place) (files : List Place) : List Place :=
  ((files.map List.dropLast).filter (· != root)).foldl (fun found place =>
    insertPlace place found) []

/-- The directories below a root with a configuration file that is not left out, in the order of
their places, or the place of the first directory that cannot be listed. -/
def modulesBelow (respectGitignore : Bool) (exclude : List Glob) (tree : FileTree)
    (root : Place) : Except Place (List Place) :=
  match tree.get? root with
  | some directory =>
    let files := filesBelow respectGitignore (levelsAbove respectGitignore tree root) root directory
    files.map fun files =>
      directoriesOf root (files.filter fun file => !isExcluded exclude (relativeName root file))
  | none => .ok []

/-- Why a search for modules comes to no end. -/
inductive SearchError where
  /-- A directory cannot be listed. -/
  | unlistable (place : Place)
  /-- A file above the root that says what is ignored is malformed. -/
  | malformed (place : Place)
  deriving DecidableEq

/-- The directories of child modules, in the order of their places. -/
def childModules (respectGitignore : Bool) (exclude : List Glob) (tree : FileTree)
    (root : Place) : Except SearchError (List Place) :=
  match malformedAbove? respectGitignore tree root with
  | some file => .error (.malformed file)
  | none => (modulesBelow respectGitignore exclude tree root).mapError .unlistable

end Discovery

end TerraLint
