import Tabscript.Fault

/-!
What a caller is told about a request: whether it succeeded, and then its output and warnings, or the error and its
code. A request that was turned away before it started has an error and no code.
-/
namespace Tabscript

/-- What a program that ran to its end has written. -/
structure RunOutput where
  stdout : String
  /-- Diagnostics that the policy lets pass. -/
  warnings : Option String
  deriving DecidableEq, Repr

/-- The answer to a request. -/
structure Outcome where
  success : Bool
  output : Option String
  warnings : Option String
  error : Option String
  code : Option String
  deriving DecidableEq, Repr

namespace Outcome

def succeeded (run : RunOutput) : Outcome :=
  ⟨true, some run.stdout, run.warnings, none, none⟩

def failed (fault : Fault) : Outcome :=
  ⟨false, none, none, some fault.message, some fault.code⟩

def rejected (message : String) : Outcome :=
  ⟨false, none, none, some message, none⟩

def ofResult : Except Fault RunOutput → Outcome
  | .ok run => succeeded run
  | .error fault => failed fault

end Outcome
end Tabscript
