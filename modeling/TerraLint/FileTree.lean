import TerraLint.EntryName

/-!
# Trees of files

The linter looks at a tree of directories and files, with a directory in it to
work in (`Workspace`). A place in the tree is the list of names that lead to it
from the root; a path is a text, which stands for a place relative to the working
directory or, with a slash in front, to the root.

Permissions can be missing. A file without them can be neither read nor replaced, and its
bytes do not matter. A directory without the permission to read cannot be listed; its
entries can still be reached by their names, and new ones be written.
-/

namespace TerraLint

/-- A file with its bytes, or a directory with its entries by name, in the order in which it is
listed. -/
inductive FileTree where
  | file (content : ByteArray)
  | directory (entries : List (EntryName × FileTree))
  /-- A file that must not be opened. -/
  | unreadable
  /-- A directory that must not be listed. -/
  | unlistable (entries : List (EntryName × FileTree))

namespace FileTree

/-- The entries of a directory. -/
def entries : FileTree → List (EntryName × FileTree)
  | directory entries => entries
  | unlistable entries => entries
  | _ => []

/-- The tree is a directory. -/
def isDirectory : FileTree → Bool
  | directory _ => true
  | unlistable _ => true
  | _ => false

/-- The tree is a directory that must not be listed. -/
def isUnlistable : FileTree → Bool
  | unlistable _ => true
  | _ => false

/-- The entry of a directory with a name. -/
def entry? (tree : FileTree) (name : EntryName) : Option FileTree := tree.entries.lookup name

/-- What is at a place. -/
def get? : FileTree → Place → Option FileTree
  | tree, [] => some tree
  | tree, name :: rest =>
    match tree.entry? name with
    | some inner => inner.get? rest
    | none => none

/-- The bytes of a file that can be read. -/
def content? : FileTree → Option ByteArray
  | file content => some content
  | _ => none

/-- The text of a file, unless its bytes are no text. -/
def text? (tree : FileTree) : Option String := tree.content?.bind String.fromUTF8?

/-- Puts an entry into the place of one with the same name, or at the end. -/
def putEntry (name : EntryName) (tree : FileTree) :
    List (EntryName × FileTree) → List (EntryName × FileTree)
  | [] => [(name, tree)]
  | (other, old) :: rest =>
    if other = name then (name, tree) :: rest else (other, old) :: putEntry name tree rest

/-- A directory with other entries, and the same permission. -/
def withEntries (entries : List (EntryName × FileTree)) : FileTree → FileTree
  | unlistable _ => unlistable entries
  | _ => directory entries

/-- Puts something at a place, with the directories on the way. -/
def put (new : FileTree) : Place → FileTree → FileTree
  | [], _ => new
  | name :: rest, tree =>
    let inner := (tree.entry? name).getD (directory [])
    tree.withEntries (putEntry name (put new rest inner) tree.entries)

/-- Makes a directory at a place, unless it is there. -/
def makeDirectory (tree : FileTree) (place : Place) : FileTree :=
  if (tree.get? place).any isDirectory then tree else put (directory []) place tree

end FileTree

/-- The stretches between the slashes of a text. -/
def splitSlashes : List Char → List (List Char)
  | [] => [[]]
  | c :: rest =>
    if c = '/' then [] :: splitSlashes rest
    else
      match splitSlashes rest with
      | [] => [[c]]
      | part :: parts => (c :: part) :: parts

/-- The names between the slashes of a path. A slash at the end counts like a dot behind
it: what is in front has to be a directory. -/
def pathNames (path : String) : Place :=
  let parts := (splitSlashes path.toList).filter fun part => !part.isEmpty
  let names := parts.map fun part => EntryName.text (String.ofList part)
  if path.toList.getLast? = some '/' then names ++ [EntryName.text "."] else names

/-- The path starts at the root. -/
def isAbsolute (path : String) : Bool := path.toList.head? == some '/'

/-- The path of something in a directory. -/
def joinPath (directory path : String) : String :=
  if isAbsolute path then path
  else if directory = "" ∨ directory.toList.getLast? = some '/' then directory ++ path
  else directory ++ "/" ++ path

/-- A tree of files, and the place of the directory to work in. -/
structure Workspace where
  tree : FileTree
  current : Place

namespace Workspace

/-- The path of the working directory, as it is shown. -/
def currentPath (w : Workspace) : String :=
  "/" ++ "/".intercalate (w.current.map EntryName.lossy)

/-- The names from the root of the tree that a path consists of. -/
def names (w : Workspace) (path : String) : Place :=
  if isAbsolute path then pathNames path else w.current ++ pathNames path

/-- The place that a name leads to from a place, if there is something: one dot stays, two dots
go up, and every name needs a directory to start from. -/
def step? (tree : FileTree) (place : Place) (name : EntryName) : Option Place :=
  match tree.get? place with
  | some inner =>
    if !inner.isDirectory then none
    else if name = "." then some place
    else if name = ".." then some place.dropLast
    else if (inner.entry? name).isSome then some (place ++ [name])
    else none
  | none => none

/-- Follows names from a place. -/
def follow (tree : FileTree) : Place → Place → Option Place
  | place, [] => some place
  | place, name :: rest => (step? tree place name).bind fun next => follow tree next rest

/-- The place that a path stands for, if there is something. -/
def place? (w : Workspace) (path : String) : Option Place :=
  follow w.tree (if isAbsolute path then [] else w.current) (pathNames path)

/-- What a path stands for. -/
def get? (w : Workspace) (path : String) : Option FileTree :=
  (w.place? path).bind w.tree.get?

/-- The path stands for a directory. -/
def isDirectory (w : Workspace) (path : String) : Bool :=
  (w.get? path).any FileTree.isDirectory

/-- The path stands for a file. -/
def isFile (w : Workspace) (path : String) : Bool :=
  (w.get? path).any fun tree => !tree.isDirectory

end Workspace

end TerraLint
