import Tabscript.Catalog

/-!
Everything that can end a request without success. A fault says what went wrong; its message, its code and the stage
it belongs to follow from that.
-/
namespace Tabscript

/-- The stages of a request, in the order in which it goes through them. -/
inductive Stage where
  | parsing
  | validating
  | assembling
  | building
  | executing
  deriving DecidableEq, Repr

def Stage.name : Stage → String
  | .parsing => "parsing"
  | .validating => "validating"
  | .assembling => "assembling"
  | .building => "building"
  | .executing => "executing"

/-- How a process ended: with a code, or by a signal, or neither is known. -/
structure ExitStatus where
  code : Option Int
  signal : Option Int
  deriving DecidableEq, Repr

/-- How a message names the end of a process. -/
def ExitStatus.describe : ExitStatus → String
  | ⟨some code, _⟩ => "exit status " ++ toString code
  | ⟨none, some signal⟩ => "terminated by signal " ++ toString signal
  | ⟨none, none⟩ => "terminated abnormally"

/-- The first thing that went wrong with a request. -/
inductive Fault where
  /-- The line is not a command. -/
  | invalidSyntax (line : Nat) (text reason : String)
  /-- The catalog has no operation of that name. -/
  | unknownFunction (line : Nat) (text name : String)
  /-- The operation does not take that many arguments. -/
  | wrongArity (line : Nat) (text name : String) (expected : Arity) (got : Nat)
  /-- An argument does not fit its slot. -/
  | invalidArgument (line : Nat) (text name : String) (position : Nat) (param reason : String)
  /-- The program could not be built. -/
  | compilation (diagnostics : String)
  /-- The built program could not be started or ended badly. -/
  | execution (status : ExitStatus) (diagnostics : String)
  /-- The built program ended well but wrote diagnostics, which the policy does not allow. -/
  | runtimeDiagnostic (diagnostics : String)
  /-- A stage was not over at its deadline, given in milliseconds. -/
  | timeout (stage : Stage) (limit : Nat)
  /-- A file operation failed. -/
  | workspace (context source : String)
  deriving DecidableEq, Repr

namespace Fault

/-- The part of a message that points at a line. -/
def atLine (line : Nat) (text : String) : String :=
  "Error parsing line " ++ toString line ++ " \"" ++ text ++ "\": "

def message : Fault → String
  | .invalidSyntax line text reason => atLine line text ++ "invalid syntax: " ++ reason
  | .unknownFunction line text name => atLine line text ++ "unknown function: " ++ name
  | .wrongArity line text name expected got =>
    atLine line text ++ name ++ " expects " ++ expected.describe ++ ", got " ++ toString got
  | .invalidArgument line text name position param reason =>
    atLine line text ++ name ++ " argument " ++ toString position ++ " (" ++ param ++ "): " ++ reason
  | .compilation diagnostics => "Compilation error: " ++ diagnostics
  | .execution status diagnostics => "Execution error (" ++ status.describe ++ "): " ++ diagnostics
  | .runtimeDiagnostic diagnostics => "Runtime stderr: " ++ diagnostics
  | .timeout stage limit => stage.name ++ " timed out after " ++ toString (limit / 1000) ++ "s"
  | .workspace context source => "workspace error: " ++ context ++ ": " ++ source

/-- The code of a fault, which stays the same when its wording changes. -/
def code : Fault → String
  | .invalidSyntax .. => "invalid_syntax"
  | .unknownFunction .. => "unknown_function"
  | .wrongArity .. => "arity_error"
  | .invalidArgument .. => "invalid_argument"
  | .compilation .. => "compile_error"
  | .execution .. => "execution_error"
  | .runtimeDiagnostic .. => "runtime_diagnostic"
  | .timeout .. => "timeout"
  | .workspace .. => "workspace_error"

/-- The stage that a fault belongs to. -/
def stage : Fault → Stage
  | .invalidSyntax .. => .parsing
  | .unknownFunction .. => .validating
  | .wrongArity .. => .validating
  | .invalidArgument .. => .validating
  | .compilation .. => .building
  | .execution .. => .executing
  | .runtimeDiagnostic .. => .executing
  | .timeout stage _ => stage
  | .workspace .. => .building

end Fault
end Tabscript
