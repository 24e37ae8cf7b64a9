import Tabscript.Call.Parser
import Tabscript.Operation.Check
import Tabscript.Text.Lines

/-!
Scripts: one command a line. Blank lines and comment lines hold no command; the others keep their number, counted
from one, and their text as written. A script is translated as a whole: first every line has to be a command, then
every command has to fit the catalog.
-/
namespace Tabscript

/-- The statement that a command became, with the line of the command. -/
structure Statement where
  line : Nat
  text : String
  deriving DecidableEq, Repr

namespace Script

/-- Whether a line holds a command: it is neither blank nor a comment. -/
def holdsCommand (line : String) : Bool :=
  match Text.trim line.toList with
  | [] => false
  | c :: _ => c != '#'

/-- The commands among the lines, of which the first has the given number. -/
def commandsFrom (number : Nat) : List String → List Command
  | [] => []
  | line :: more =>
    if holdsCommand line then ⟨number, line⟩ :: commandsFrom (number + 1) more
    else commandsFrom (number + 1) more

def commands (script : String) : List Command :=
  commandsFrom 1 (Text.lines script)

def parseCommand (command : Command) : Except Fault Call :=
  match Call.parseLine command.text with
  | .ok (name, args) => .ok ⟨name, args, command.line, command.text⟩
  | .error fault => .error (.invalidSyntax command.line command.text fault.message)

/-- Reads every command; the first one that cannot be read is the fault. -/
def parse : List Command → Except Fault (List Call)
  | [] => .ok []
  | command :: more =>
    match parseCommand command with
    | .error fault => .error fault
    | .ok call => (parse more).map (call :: ·)

/-- The statement that a call becomes. -/
def statement (call : Call) : Except Fault Statement :=
  (call.validate).map fun op => ⟨call.line, op.render⟩

/-- The statements of all calls; the first call that does not fit the catalog is the fault. -/
def validate : List Call → Except Fault (List Statement)
  | [] => .ok []
  | call :: more =>
    match statement call with
    | .error fault => .error fault
    | .ok stmt => (validate more).map (stmt :: ·)

/-- The statements of a script, in order. -/
def translate (script : String) : Except Fault (List Statement) :=
  match parse (commands script) with
  | .error fault => .error fault
  | .ok calls => validate calls

end Script
end Tabscript
