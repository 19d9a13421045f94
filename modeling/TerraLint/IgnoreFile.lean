import TerraLint.EntryName
import TerraLint.Parser
import TerraLint.Pattern
import TerraLint.Text.Blank

/-!
# Ignore files

An ignore file lists patterns, one on a line, for files and directories below its
directory that are to be left out. A line with an exclamation mark in front takes
matching entries in again, and the last line that matches an entry decides. A
slash at the end restricts a line to directories. A line with another slash in it
is matched against the whole path below the directory, any other line against the
last name of the path.

In patterns `?` and `*` stand for one byte and for bytes other than a slash, `**`
as a whole component for any directories, brackets for a set, braces for
alternatives, and a backslash takes the next character for itself. Patterns are
matched byte by byte; a text stands for its bytes (`bytesOf`), and so does a name that
is no text. A line that is no pattern says nothing, and makes the file malformed
(`IgnoreFile.isMalformed`).
-/

namespace TerraLint

/-- The bytes of a name, each as the character with its number. -/
def EntryName.byteChars (name : EntryName) : List Char :=
  name.toBytes.map fun byte => Char.ofNat byte.toNat

/-- The bytes of a text, each as the character with its number. -/
def bytesOf (text : String) : List Char := EntryName.byteChars text

/-- A part of a line's pattern. -/
inductive IgnorePart where
  /-- A character that stands for itself. -/
  | char (c : Char)
  /-- One byte. -/
  | set (holds : Char → Bool)
  /-- Bytes other than a slash. -/
  | star
  /-- Any directories in front. -/
  | leading
  /-- Everything below. -/
  | trailing
  /-- Any directories between two names. -/
  | between
  | choice (branches : List (List IgnorePart))

namespace IgnorePart

mutual

/-- The pattern that a part is. -/
def toPattern : IgnorePart → Pattern
  | char c => .sequence ((bytesOf c.toString).map .just)
  | set holds => .one holds
  | star => .many (· != '/')
  | leading =>
    .alternate .empty (.alternate (.just '/') (.concat .anything (.just '/')))
  | trailing => .concat (.just '/') .anything
  | between =>
    .alternate (.just '/') (.concat (.just '/') (.concat .anything (.just '/')))
  | choice branches => branchesToPattern branches

/-- The pattern that parts are, one after the other. -/
def allToPattern : List IgnorePart → Pattern
  | [] => .empty
  | part :: rest => .concat part.toPattern (allToPattern rest)

/-- The pattern that alternatives are; there is at least one. -/
def branchesToPattern : List (List IgnorePart) → Pattern
  | [] => .empty
  | [branch] => allToPattern branch
  | branch :: rest => .alternate (allToPattern branch) (branchesToPattern rest)

end

end IgnorePart

namespace IgnoreFile

open TerraLint.Parser

/-- The single bytes and ranges of bytes that a range of characters is written as. -/
def byteRanges (lo hi : Char) : Option (List (Char × Char)) :=
  if lo = hi then some ((bytesOf lo.toString).map fun b => (b, b))
  else
    let low := bytesOf lo.toString
    let high := bytesOf hi.toString
    match low.getLast?, high.head? with
    | some last, some first =>
      if last ≤ first then
        some (low.dropLast.map (fun b => (b, b)) ++ (last, first) ::
          (high.drop 1).map fun b => (b, b))
      else none
    | _, _ => none

/-- The ranges of characters that a set lists, in any order. `found` are those read before,
the last first, and `pending` says that a hyphen has been read behind them, which extends
the last of them up to the next character. -/
def ranges (found : List (Char × Char)) (pending : Bool) :
    List Char → Option (List (Char × Char))
  | [] => some (if pending then ('-', '-') :: found else found)
  | c :: rest =>
    match found, pending with
    | (lo, _) :: earlier, true =>
      if lo ≤ c then ranges ((lo, c) :: earlier) false rest else none
    | _, _ =>
      if c = '-' ∧ !found.isEmpty then ranges found true rest
      else ranges ((c, c) :: found) false rest

/-- Reads a set behind its opening bracket. -/
def set : Parser IgnorePart := do
  let negated ← do
    if ← option "!" then pure true else option "^"
  let first ← any
  let others ← takeWhile (· != ']')
  char ']'
  let found ← ofOption (ranges [] false (first :: others))
  let bytes ← ofOption (found.mapM fun (lo, hi) => byteRanges lo hi)
  let holds (c : Char) : Bool := bytes.flatten.any fun (lo, hi) => lo ≤ c && c ≤ hi
  return .set (if negated then fun c => !holds c else holds)

/-- A pattern in the course of reading: the parts of the branch being read and the finished
branches of the innermost braces, the last first, and the same for the braces around. -/
structure Reading where
  parts : List IgnorePart := []
  branches : List (List IgnorePart) := []
  around : List (List IgnorePart × List (List IgnorePart)) := []
  /-- The character in front. -/
  before : Option Char := none

namespace Reading

/-- Adds a part, which ends with a character. -/
def add (r : Reading) (part : IgnorePart) (last : Char) : Reading :=
  { r with parts := part :: r.parts, before := some last }

/-- Adds any directories behind a slash, in place of the slash. -/
def addDirectories (r : Reading) (part : IgnorePart) (last : Char) : Reading :=
  match r.parts with
  | .leading :: _ => { r with before := some last }
  | .trailing :: _ => { r with before := some last }
  | _ :: rest => { r with parts := part :: rest, before := some last }
  | [] => { r with parts := [part], before := some last }

/-- Adds two stars that are no component of their own. -/
def addStars (r : Reading) : Reading := (r.add .star '*').add .star '*'

/-- Whether the innermost braces end, or go on with another branch, at a character. -/
def endsBranch (r : Reading) (c : Char) : Bool :=
  !r.around.isEmpty && (c == ',' || c == '}')

/-- Adds two stars, which have been read, and reads the slash behind them if they are a
component of the path. -/
def doubleStar (r : Reading) : Parser Reading := do
  let next ← peek
  if r.parts.isEmpty then
    if next.all (· == '/') then
      let _ ← option "/"
      return r.add .leading (next.getD '*')
    else return r.addStars
  else if r.before != some '/' then return r.addStars
  else
    match next with
    | none => return r.addDirectories .trailing '*'
    | some '/' =>
      skip 1
      return r.addDirectories .between '/'
    | some c =>
      if r.endsBranch c then return r.addDirectories .trailing '*' else return r.addStars

end Reading

/-- Reads one more part of a pattern; at the end all braces must be closed. -/
def step (r : Reading) : Parser (Reading ⊕ List IgnorePart) := do
  match ← peek with
  | none =>
    require r.around.isEmpty
    return .inr r.parts.reverse
  | some '?' =>
    skip 1
    return .inl (r.add (.set (· != '/')) '?')
  | some '*' =>
    skip 1
    if ← option "*" then return .inl (← r.doubleStar) else return .inl (r.add .star '*')
  | some '[' =>
    skip 1
    return .inl (r.add (← set) ']')
  | some '{' =>
    skip 1
    return .inl ⟨[], [], (r.parts, r.branches) :: r.around, some '{'⟩
  | some '}' =>
    skip 1
    match r.around with
    | (parts, branches) :: around =>
      let choice := .choice (r.parts.reverse :: r.branches).reverse
      return .inl ⟨choice :: parts, branches, around, some '}'⟩
    | [] => fail
  | some ',' =>
    skip 1
    if r.around.isEmpty then return .inl (r.add (.char ',') ',')
    else return .inl ⟨[], r.parts.reverse :: r.branches, r.around, some ','⟩
  | some '\\' =>
    skip 1
    let c ← any
    return .inl (r.add (.char c) c)
  | some c =>
    skip 1
    return .inl (r.add (.char c) c)

/-- The pattern of paths that a text describes. -/
def pattern? (text : List Char) : Option Pattern :=
  (readAll (loop step {}) text).map fun
    | [.leading] => .anything
    | parts => IgnorePart.allToPattern parts

end IgnoreFile

/-- A line of an ignore file that is a rule. -/
structure IgnoreRule where
  pattern : Pattern
  /-- Matching entries are taken in again. -/
  negated : Bool
  directoryOnly : Bool

/-- A line of an ignore file that should be a rule. -/
structure IgnoreLine where
  /-- The text of the pattern, as it is matched against a whole path. -/
  text : List Char
  negated : Bool
  directoryOnly : Bool

namespace IgnoreLine

/-- The rest of a text behind a word in front of it, if it is there. -/
def behind? (word : String) (text : List Char) : Option (List Char) :=
  if word.toList.isPrefixOf text then some (text.drop word.length) else none

/-- The pattern, as it is matched against a whole path, for the text of a line. -/
def wholePath (anchored : Bool) (text : List Char) : List Char :=
  let text :=
    if !anchored && !text.contains '/' && text != "**".toList then "**/".toList ++ text
    else text
  if "/**".toList.isSuffixOf text then text ++ "/*".toList else text

/-- What a line says, unless it is blank or a comment. Blanks at the end do not count, unless the
last one is escaped. -/
def ofText? (line : String) : Option IgnoreLine := do
  let text := line.toList
  guard (text.head? != some '#')
  let text := if "\\ ".toList.isSuffixOf text then text
    else (text.reverse.dropWhile Text.isBlank).reverse
  guard !text.isEmpty
  let escaped := (behind? "\\!" text).isSome || (behind? "\\#" text).isSome
  let negated := !escaped && text.head? == some '!'
  let text := if escaped || negated then text.drop 1 else text
  let anchored := !escaped && text.head? == some '/'
  let text := if anchored then text.drop 1 else text
  let directoryOnly := text.getLast? == some '/'
  let text := if directoryOnly then text.dropLast else text
  let text := if directoryOnly && text.getLast? == some '\\' then text.dropLast else text
  return ⟨wholePath anchored text, negated, directoryOnly⟩

/-- The rule that a line is, if its text is a pattern. -/
def rule? (line : IgnoreLine) : Option IgnoreRule :=
  (IgnoreFile.pattern? line.text).map fun pattern => { line with pattern }

end IgnoreLine

namespace IgnoreFile

/-- The lines of a file up to the first that is no text. A byte order mark in front is passed
over. -/
def lines (content : ByteArray) : List String :=
  let chunks := content.toList.splitOn 10
  let texts := chunks.map fun chunk =>
    let chunk := if chunk.getLast? = some 13 then chunk.dropLast else chunk
    String.fromUTF8? ⟨chunk.toArray⟩
  match (texts.takeWhile Option.isSome).filterMap id with
  | first :: rest =>
    (if first.toList.head? == some '\uFEFF' then String.ofList (first.toList.drop 1) else first)
      :: rest
  | [] => []

/-- The rules of a file, in the order of its lines. -/
def rules (content : ByteArray) : List IgnoreRule :=
  ((lines content).filterMap IgnoreLine.ofText?).filterMap IgnoreLine.rule?

/-- The file has a line that should be a rule and is none. -/
def isMalformed (content : ByteArray) : Bool :=
  ((lines content).filterMap IgnoreLine.ofText?).any fun line => line.rule?.isNone

/-- Whether an entry is left out (`true`) or taken in (`false`); `none` if no line matches.
The path is the one below the directory of the file. -/
def verdict (rules : List IgnoreRule) (path : Place) (isDirectory : Bool) : Option Bool :=
  let bytes := ['/'].intercalate (path.map EntryName.byteChars)
  (rules.reverse.find? fun rule =>
    (isDirectory || !rule.directoryOnly) && rule.pattern.isWholeMatch bytes).map fun rule =>
      !rule.negated

end IgnoreFile

end TerraLint
