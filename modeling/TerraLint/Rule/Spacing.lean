import TerraLint.Token

/-!
# The space between blocks

Top-level blocks are separated by exactly one empty line. What is looked at is the
*gap* behind the brace that closes a top-level block: the line breaks and comments
up to the next token of content. The gap is right when it holds two line breaks.
Comments do not count, but a line comment brings its own line feed along and so
takes the place of one. A further closing brace starts the gap anew, and the end
of the file is never at fault.
-/

namespace TerraLint.Spacing

/-- Where in the tokens a scan is. -/
inductive State where
  /-- Inside a number of open blocks, or before the first block. -/
  | inside (depth : Nat)
  /-- In the gap behind a top-level block, with the line breaks seen so far. -/
  | gap (lineBreaks : Nat)
  deriving DecidableEq, Repr

/-- The state after a token, inside a number of open blocks. A closing brace without an
open block is passed over. -/
def enter (depth : Nat) : Kind → State
  | .openBrace => .inside (depth + 1)
  | .closeBrace =>
    match depth with
    | 0 => .inside 0
    | 1 => .gap 0
    | depth + 2 => .inside (depth + 1)
  | _ => .inside depth

/-- The tokens of content that follow a top-level block without exactly one empty line in
between, when the scan is in a given state. -/
def violationsFrom : State → List Token → List Token
  | _, [] => []
  | .inside depth, t :: rest => violationsFrom (enter depth t.kind) rest
  | .gap lineBreaks, t :: rest =>
    match t.kind with
    | .newline => violationsFrom (.gap (lineBreaks + 1)) rest
    | .comment => violationsFrom (.gap lineBreaks) rest
    | .closeBrace => violationsFrom (.gap 0) rest
    | .endOfFile => violationsFrom (.inside 0) rest
    | kind =>
      if lineBreaks = 2 then violationsFrom (enter 0 kind) rest
      else t :: violationsFrom (enter 0 kind) rest

/-- The tokens of content that follow a top-level block without exactly one empty line in
between. -/
def violations (tokens : List Token) : List Token :=
  violationsFrom (.inside 0) tokens

end TerraLint.Spacing
