import Tabscript.Token.Lexer

/-!
Reading a line call by call. A cursor stands in a line and is asked for one item after the other. It also has a place
after a fault, where the scanner gave up, and it can be asked again behind its last item: once it has given the end of
the line or a fault it is finished, and gives nothing more.
-/
namespace Tabscript.Token

/-- Where the scanner of texts stops: behind the closing quote, or at the end of the line if there is none. -/
def textEnd : List Char → List Char
  | [] => []
  | c :: rest =>
    if c = '\"' then rest
    else if c = '\\' then
      match rest with
      | [] => []
      | _ :: more => textEnd more
    else textEnd rest

/-- Where the scanner of exponents stops. A mark without digits is taken too, and so is its sign. -/
def exponentEnd : List Char → List Char
  | [] => []
  | e :: rest => if e = 'e' ∨ e = 'E' then (splitSign rest).2.dropWhile Char.isDigit else e :: rest

/-- Where the scanner of numbers stops. A sign that no number follows is taken by itself. -/
def numberEnd (first : Char) (rest : List Char) : List Char :=
  if isSign first && !begins isMantissa rest then rest else exponentEnd (rest.dropWhile isMantissa)

/-- Where the reading of a token stops that begins with the given character, also if it is a fault. -/
def tokenEnd (c : Char) (rest : List Char) : List Char :=
  if c = '\"' then textEnd rest
  else if startsNumber c then numberEnd c rest
  else if startsName c then rest.dropWhile isNameChar
  else rest

/-- A place in a line, and whether the reading of the line is over. -/
structure Cursor where
  rest : List Char
  finished : Bool
  deriving DecidableEq, Repr

namespace Cursor

def ofLine (line : String) : Cursor :=
  ⟨line.toList, false⟩

/-- Asks for the next item. The end of the line and a fault finish the reading. -/
def next (cursor : Cursor) : Option (Except LexFault Token) × Cursor :=
  if cursor.finished then (none, cursor)
  else match cursor.rest.dropWhile Text.isBlank with
    | [] => (some (.ok .eof), ⟨[], true⟩)
    | c :: rest =>
      if c = '#' then (some (.ok .eof), ⟨rest, true⟩)
      else match scanToken c rest with
        | .ok (t, _) => (some (.ok t), ⟨tokenEnd c rest, false⟩)
        | .error f => (some (.error f), ⟨tokenEnd c rest, true⟩)

/-- The cursor after it has been asked a number of times. -/
def after (cursor : Cursor) : Nat → Cursor
  | 0 => cursor
  | calls + 1 => cursor.next.2.after calls

/-- What the cursor gives when it has been asked a number of times before. -/
def answer (cursor : Cursor) (calls : Nat) : Option (Except LexFault Token) :=
  (cursor.after calls).next.1

end Cursor
end Tabscript.Token
