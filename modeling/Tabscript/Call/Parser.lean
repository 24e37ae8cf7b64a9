import Tabscript.Call
import Tabscript.Token.Lexer

/-!
Reading a call off the tokens of a line. A command is a name, arguments in parentheses separated by commas, and at most
one semicolon. The reader goes through the tokens once and keeps the calls that are still open on a stack, so that
a fault is always found at the first token that cannot continue a command.
-/
namespace Tabscript.Call

/-- Why a line is not a command; the token is the one that was found instead. -/
inductive SyntaxFault where
  | nameExpected (found : Token)
  | parenExpected (found : Token)
  | argumentExpected (found : Token)
  | separatorExpected (found : Token)
  | trailing (found : Token)
  | lexical (fault : LexFault)
  /-- The tokens stop without the end of the line, which no line's tokens do. -/
  | exhausted
  deriving DecidableEq, Repr

def SyntaxFault.message : SyntaxFault → String
  | .nameExpected found => "expected an operation name, found " ++ found.describe
  | .parenExpected found => "expected '(' after operation name, found " ++ found.describe
  | .argumentExpected found => "expected an argument, found " ++ found.describe
  | .separatorExpected found => "expected ',' or ')' in argument list, found " ++ found.describe
  | .trailing found => "unexpected " ++ found.describe ++ " after closing ')'"
  | .lexical fault => fault.message
  | .exhausted => "unexpected end of line"

/-- A call whose closing parenthesis is still to come: its name and the arguments read so far, the last one first. -/
structure OpenCall where
  name : String
  args : List Expr

def OpenCall.push (o : OpenCall) (e : Expr) : OpenCall :=
  { o with args := e :: o.args }

/-- How far the reading of a command has come. An open call stands with the calls around it, the nearest first. -/
inductive Reading where
  | start
  /-- After the name of the command. -/
  | named (name : String)
  /-- Directly after an opening parenthesis. -/
  | opened (inner : OpenCall) (outer : List OpenCall)
  /-- Directly after a comma. -/
  | due (inner : OpenCall) (outer : List OpenCall)
  /-- After a name where an argument may stand: a bare name, or the name of a nested call. -/
  | word (text : String) (inner : OpenCall) (outer : List OpenCall)
  /-- After a whole argument. -/
  | filled (inner : OpenCall) (outer : List OpenCall)
  /-- After the last closing parenthesis. -/
  | closed (name : String) (args : List Expr)
  /-- After the semicolon. -/
  | ended (name : String) (args : List Expr)

/-- What one token does to a reading. -/
inductive Step where
  | more (reading : Reading)
  | done (name : String) (args : List Expr)
  | fault (fault : SyntaxFault)

namespace Reading

/-- Closes the innermost call and makes it an argument of the call around it. -/
def close (inner : OpenCall) : List OpenCall → Reading
  | [] => .closed inner.name inner.args.reverse
  | o :: outer => .filled (o.push (.call inner.name inner.args.reverse)) outer

/-- A token where an argument has to begin. -/
def argument (inner : OpenCall) (outer : List OpenCall) : Token → Step
  | .str text => .more (.filled (inner.push (.str text)) outer)
  | .number text => .more (.filled (inner.push (.number text)) outer)
  | .ident text => .more (.word text inner outer)
  | found => .fault (.argumentExpected found)

/-- A token after a whole argument. -/
def separator (inner : OpenCall) (outer : List OpenCall) : Token → Step
  | .comma => .more (.due inner outer)
  | .rparen => .more (close inner outer)
  | found => .fault (.separatorExpected found)

/-- Takes one token. -/
def step : Reading → Token → Step
  | .start, .ident name => .more (.named name)
  | .start, found => .fault (.nameExpected found)
  | .named name, .lparen => .more (.opened ⟨name, []⟩ [])
  | .named _, found => .fault (.parenExpected found)
  | .opened inner outer, .rparen => .more (close inner outer)
  | .opened inner outer, found => argument inner outer found
  | .due inner outer, found => argument inner outer found
  | .word text inner outer, .lparen => .more (.opened ⟨text, []⟩ (inner :: outer))
  | .word text inner outer, found => separator (inner.push (.ident text)) outer found
  | .filled inner outer, found => separator inner outer found
  | .closed name args, .semicolon => .more (.ended name args)
  | .closed name args, .eof => .done name args
  | .closed _ _, found => .fault (.trailing found)
  | .ended name args, .eof => .done name args
  | .ended _ _, found => .fault (.trailing found)

/-- Takes the items of a line in order until the command is complete or a fault is met. -/
def run : Reading → List (Except LexFault Token) → Except SyntaxFault (String × List Expr)
  | _, [] => .error .exhausted
  | _, .error f :: _ => .error (.lexical f)
  | reading, .ok t :: rest =>
    match reading.step t with
    | .more next => run next rest
    | .done name args => .ok (name, args)
    | .fault f => .error f

end Reading

/-- The name and the arguments of the command on a line. -/
def parseLine (line : String) : Except SyntaxFault (String × List Expr) :=
  Reading.start.run (Token.items line.toList)

end Tabscript.Call
