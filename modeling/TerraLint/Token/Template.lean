import TerraLint.Token

/-!
# Quoted templates

A quoted template runs from one double quote to the next that closes it. It may
hold interpolations, which hold braces and quoted templates in turn, so the
closing quote is found by keeping the open constructs on a stack
(`closeTemplate`): the innermost one decides what a character means.

* In a template a backslash protects the next character, a dollar or percent sign
  followed by an opening brace opens an interpolation, and a doubled sign stands
  for itself, together with an opening brace behind it. A line feed may not occur.
* In an interpolation braces are counted, and a quote opens a template.

When the text ends too early, the construct to blame is the innermost open one,
and it is reported with the place where it was opened.
-/

namespace TerraLint

/-- A construct of the token grammar that can be left open. -/
inductive Construct where
  | string
  | interpolation
  | heredoc
  | blockComment
  deriving DecidableEq, Repr

/-- The construct as messages name it. -/
def Construct.describe : Construct → String
  | .string => "string"
  | .interpolation => "template interpolation"
  | .heredoc => "heredoc"
  | .blockComment => "block comment"

/-- A construct left open, and how many characters of the text stand before it. -/
structure Unterminated where
  what : Construct
  offset : Nat
  deriving DecidableEq, Repr

namespace Unterminated

/-- The same failure, seen from `n` characters further left. -/
def shift (n : Nat) (u : Unterminated) : Unterminated :=
  ⟨u.what, n + u.offset⟩

end Unterminated

namespace Token

/-- A construct open inside a quoted template. Both kinds remember at which character
of the text they were opened. -/
inductive Frame where
  /-- A template, waiting for its closing quote. -/
  | quote (start : Nat)
  /-- An interpolation, with the number of braces still open. -/
  | interpolation (start : Nat) (braces : Nat)
  deriving DecidableEq, Repr

/-- The failure to report when the text ends inside a construct. -/
def Frame.unterminated : Frame → Unterminated
  | .quote start => ⟨.string, start⟩
  | .interpolation start _ => ⟨.interpolation, start⟩

/-- The number of characters read when the outermost construct has been closed. Of the
text, `read` characters have been read, `frame` is the innermost open construct and
`outer` are the constructs around it. -/
def closeTemplate (read : Nat) (frame : Frame) (outer : List Frame) :
    List Char → Except Unterminated Nat
  | [] => .error frame.unterminated
  | c :: rest =>
    match frame with
    | .quote _ =>
      match c, rest with
      | '\n', _ => .error frame.unterminated
      | '\\', _ :: rest => closeTemplate (read + 2) frame outer rest
      | '"', rest =>
        match outer with
        | [] => .ok (read + 1)
        | around :: outer => closeTemplate (read + 1) around outer rest
      | '$', '{' :: rest =>
        closeTemplate (read + 2) (.interpolation read 1) (frame :: outer) rest
      | '%', '{' :: rest =>
        closeTemplate (read + 2) (.interpolation read 1) (frame :: outer) rest
      | '$', '$' :: '{' :: rest => closeTemplate (read + 3) frame outer rest
      | '%', '%' :: '{' :: rest => closeTemplate (read + 3) frame outer rest
      | '$', '$' :: rest => closeTemplate (read + 2) frame outer rest
      | '%', '%' :: rest => closeTemplate (read + 2) frame outer rest
      | _, rest => closeTemplate (read + 1) frame outer rest
    | .interpolation start braces =>
      match c with
      | '{' => closeTemplate (read + 1) (.interpolation start (braces + 1)) outer rest
      | '}' =>
        if braces ≤ 1 then
          match outer with
          | [] => .ok (read + 1)
          | around :: outer => closeTemplate (read + 1) around outer rest
        else closeTemplate (read + 1) (.interpolation start (braces - 1)) outer rest
      | '"' => closeTemplate (read + 1) (.quote read) (frame :: outer) rest
      | _ => closeTemplate (read + 1) frame outer rest

end Token

end TerraLint
