import TerraLint.Pattern

/-!
# Patterns for paths

Files to leave out are named by patterns for their paths: `?` stands for any
character, `*` for any text, `[a-z]` and `[!a-z]` for a character inside and
outside a set, and `**` as a whole component of a path for any directories, among
them none. A slash is a character like all others, so `*` runs over directories as
well.

Such a pattern also leaves out every path in which its core occurs, the core being
the pattern without its `**` (`Glob.core?`).
-/

namespace TerraLint

/-- What can be wrong with a pattern for paths. -/
inductive GlobFault where
  /-- A bracket that is not closed. -/
  | range
  /-- More than two stars in a row. -/
  | wildcards
  /-- Two stars that are not a component of their own. -/
  | recursive
  deriving DecidableEq, Repr

/-- A fault, and the place in the pattern, counted in characters. -/
structure GlobError where
  position : Nat
  fault : GlobFault
  deriving DecidableEq, Repr

namespace GlobFault

/-- The fault as messages show it. -/
def message : GlobFault → String
  | range => "invalid range pattern"
  | wildcards => "wildcards are either regular `*` or recursive `**`"
  | recursive => "recursive wildcards must form a single path component"

end GlobFault

/-- The error as messages show it. -/
def GlobError.message (e : GlobError) : String :=
  "Pattern syntax error near position " ++ toString e.position ++ ": " ++ e.fault.message

/-- A pattern for paths, as it was written and as it is used. -/
structure Glob where
  text : String
  pattern : Pattern

namespace Glob

/-- Some of the characters of a set that is given by single characters and ranges. -/
def setHas : List Char → Char → Bool
  | lo :: '-' :: hi :: rest, c => (lo ≤ c && c ≤ hi) || setHas rest c
  | single :: rest, c => single == c || setHas rest c
  | [], _ => false

/-- The set behind an opening bracket, what follows its closing bracket, and how many
characters it takes. The first member may be a closing bracket. -/
def bracket? (text : List Char) : Option (Pattern × List Char × Nat) :=
  let negated := text.head? == some '!'
  let text := if negated then text.drop 1 else text
  match text with
  | first :: more =>
    let others := more.takeWhile (· != ']')
    let left := more.drop others.length
    if left.isEmpty then none
    else
      let holds := setHas (first :: others)
      some (.one (if negated then fun c => !holds c else holds), left.drop 1,
        others.length + (if negated then 3 else 2))
  | [] => none

/-- The pattern for any directories: nothing, a text up to a slash, or all that is left. -/
def directories : Pattern :=
  .alternate .empty (.alternate (.concat .anything (.just '/'))
    (.concat .anything (.look .textEnd)))

/-- The parts of a pattern that starts at a place of the whole, behind a character. At most
`fuel` parts are read. -/
def parts (fuel position : Nat) (before : Option Char) (text : List Char) :
    Except GlobError (List Pattern) :=
  match fuel, text with
  | _, [] => .ok []
  | 0, _ => .ok []
  | fuel + 1, '?' :: rest => do
    return .one (fun _ => true) :: (← parts fuel (position + 1) (some '?') rest)
  | fuel + 1, '*' :: rest =>
    match (rest.takeWhile (· == '*')).length with
    | 0 => do return .anything :: (← parts fuel (position + 1) (some '*') rest)
    | 1 =>
      if before.any (· != '/') then .error ⟨position - 1, .recursive⟩
      else
        match rest.drop 1 with
        | [] => .ok [directories]
        | '/' :: rest => do
          return directories :: (← parts fuel (position + 3) (some '/') rest)
        | _ => .error ⟨position + 2, .recursive⟩
    | _ => .error ⟨position + 2, .wildcards⟩
  | fuel + 1, '[' :: rest =>
    match bracket? rest with
    | some (set, rest, length) => do
      return set :: (← parts fuel (position + 1 + length) (some ']') rest)
    | none => .error ⟨position, .range⟩
  | fuel + 1, c :: rest => do
    return .just c :: (← parts fuel (position + 1) (some c) rest)

/-- The pattern that a text describes. -/
def ofText (text : String) : Except GlobError Glob := do
  return ⟨text, .sequence (← parts text.length 0 none text.toList)⟩

/-- A text without the occurrences of a word; `skip` characters in front are passed over. -/
def without (word : List Char) : Nat → List Char → List Char
  | _, [] => []
  | skip + 1, _ :: rest => without word skip rest
  | 0, c :: rest =>
    if word.isPrefixOf (c :: rest) then without word (word.length - 1) rest
    else c :: without word 0 rest

/-- The word occurs in the text. -/
def occurs (word : List Char) : List Char → Bool
  | [] => word.isEmpty
  | c :: rest => word.isPrefixOf (c :: rest) || occurs word rest

/-- What has to occur in a path for the pattern to leave it out: the pattern without its
`**`, unless that is empty or has a star. -/
def core? (glob : Glob) : Option (List Char) :=
  let core := without "/**".toList 0 (without "**/".toList 0 glob.text.toList)
  if core.isEmpty || core.contains '*' then none else some core

/-- The pattern leaves a path out. -/
def excludes (glob : Glob) (path : String) : Bool :=
  glob.pattern.isWholeMatch path.toList || glob.core?.any (occurs · path.toList)

end Glob

end TerraLint
