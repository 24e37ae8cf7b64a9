/-!
Lines of a text. A line feed ends a line, and one carriage return before it belongs to the ending. What follows
the last line feed is a line only if it is not empty, and it keeps a carriage return at its end, since no line
feed follows.
-/
namespace Tabscript.Text

/-- The pieces between line feeds, one more than there are line feeds; `held` is the piece read so far, reversed. -/
def segmentsFrom (held : List Char) : List Char → List (List Char)
  | [] => [held.reverse]
  | c :: cs => if c = '\n' then held.reverse :: segmentsFrom [] cs else segmentsFrom (c :: held) cs

def segments (cs : List Char) : List (List Char) :=
  segmentsFrom [] cs

/-- Drops one carriage return at the end. -/
def dropReturn (cs : List Char) : List Char :=
  if cs.getLast? = some '\r' then cs.dropLast else cs

/-- Pieces read as lines: each but the last was ended by a line feed. -/
def linesOfSegments : List (List Char) → List (List Char)
  | [] => []
  | [last] => if last.isEmpty then [] else [last]
  | piece :: more => dropReturn piece :: linesOfSegments more

def lines (s : String) : List String :=
  (linesOfSegments (segments s.toList)).map String.ofList

end Tabscript.Text
