import Tabscript.Text.Quoted

/-!
Tokens of one command line: names, numbers, texts between quotes and four signs. A number keeps the text it was
written with, a text has its escapes decoded, and the end of the line is a token too.
-/
namespace Tabscript

/-- One lexical item of a command line. -/
inductive Token where
  | ident (text : String)
  | number (text : String)
  | str (text : String)
  | lparen
  | rparen
  | comma
  | semicolon
  | eof
  deriving DecidableEq, Repr, Inhabited

def Token.describe : Token → String
  | .ident text => "identifier " ++ text
  | .number text => "number " ++ text
  | .str text => "string " ++ Text.quoted text
  | .lparen => "'('"
  | .rparen => "')'"
  | .comma => "','"
  | .semicolon => "';'"
  | .eof => "end of line"

/-- Why no token can be read. -/
inductive LexFault where
  /-- A sign with neither a digit nor a point after it. -/
  | bareSign (sign : Char)
  /-- An exponent mark without digits. -/
  | emptyExponent (text : String)
  /-- More than one point, or no digit at all. -/
  | malformedNumber (text : String)
  /-- A letter or underscore directly after a number. -/
  | gluedNumber (next : Char) (text : String)
  /-- A text whose closing quote is missing. -/
  | openText
  /-- A character that begins no token. -/
  | strayCharacter (c : Char)
  deriving DecidableEq, Repr

def LexFault.message : LexFault → String
  | .bareSign sign => "expected digits after '" ++ sign.toString ++ "'"
  | .emptyExponent text => "malformed exponent in number " ++ text
  | .malformedNumber text => "malformed number " ++ text
  | .gluedNumber next text => "unexpected character " ++ next.toString ++ " after number " ++ text
  | .openText => "unterminated string literal"
  | .strayCharacter c => "unexpected character " ++ c.toString

end Tabscript
