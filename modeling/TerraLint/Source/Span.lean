import TerraLint.Source.Position

/-!
# Spans

A span is a stretch of a named file, from a first position up to, and not
including, a last one. Two spans of one file have a smallest span around both
(`Span.between`), found by comparing byte offsets. A byte span is a stretch of
some text of which only the byte offsets are known.
-/

namespace TerraLint

/-- A stretch of bytes, from the first to behind the last. -/
structure ByteSpan where
  start : Nat
  stop : Nat
  deriving DecidableEq, Repr

/-- A stretch of a file. -/
structure Span where
  file : String
  start : Position
  stop : Position
  deriving DecidableEq, Repr

namespace Span

/-- The empty span at a position. -/
def point (file : String) (p : Position) : Span := ⟨file, p, p⟩

/-- The smallest span that covers both; the file is that of the first. -/
def between (a b : Span) : Span where
  file := a.file
  start := if b.start.byte < a.start.byte then b.start else a.start
  stop := if b.stop.byte > a.stop.byte then b.stop else a.stop

/-- The number of bytes covered; a span that ends before it starts covers none. -/
def length (s : Span) : Nat := s.stop.byte - s.start.byte

/-- A span that covers no byte. -/
def isEmpty (s : Span) : Bool := s.length == 0

/-- The span as messages show it: file, then line and column of both ends. -/
def describe (s : Span) : String :=
  s.file ++ ":" ++ toString s.start.line ++ "," ++ toString s.start.column ++ "-" ++
    toString s.stop.line ++ "," ++ toString s.stop.column

end Span

end TerraLint
