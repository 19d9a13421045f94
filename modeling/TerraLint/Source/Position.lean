/-!
# Positions in a text

A position says where a character of a text begins, three times over: by line, by
column and by byte offset. Lines and columns count from one, a column being one
character wide; bytes count from zero in the UTF-8 encoding. The position after a
stretch of text is found by walking over it (`Position.advance`), so that a
position is a function of the text in front of it.
-/

namespace TerraLint

/-- The number of bytes of a text in UTF-8. -/
def byteLength (text : List Char) : Nat :=
  text.foldr (fun c length => c.utf8Size + length) 0

/-- A place in a text. -/
structure Position where
  line : Nat
  column : Nat
  byte : Nat
  deriving DecidableEq, Repr

namespace Position

/-- The place of the first character. -/
def start : Position := ⟨1, 1, 0⟩

instance : Inhabited Position := ⟨start⟩

/-- The place after one character: a line feed opens a new line, and any other
character takes one column. -/
def next (p : Position) (c : Char) : Position :=
  if c = '\n' then ⟨p.line + 1, 1, p.byte + c.utf8Size⟩
  else ⟨p.line, p.column + 1, p.byte + c.utf8Size⟩

/-- The place after a stretch of text. -/
def advance (p : Position) (text : List Char) : Position :=
  text.foldl next p

@[simp] theorem advance_nil (p : Position) : p.advance [] = p := rfl

@[simp] theorem advance_cons (p : Position) (c : Char) (text : List Char) :
    p.advance (c :: text) = (p.next c).advance text := rfl

theorem advance_append (p : Position) (a b : List Char) :
    p.advance (a ++ b) = (p.advance a).advance b :=
  List.foldl_append

end Position

end TerraLint
