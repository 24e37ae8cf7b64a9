import Tabscript.Capture
import Tabscript.Config
import Tabscript.Outcome
import Tabscript.Plan

/-!
Running a built program under its deadline, and what its end means. A bad end is always a fault. Diagnostics of a run
that ended well are a fault or a warning, by the policy.
-/
namespace Tabscript

/-- What a process has written, as texts, and how it ended. -/
structure Execution where
  stdout : String
  stderr : String
  status : ExitStatus
  deriving DecidableEq, Repr

def Execution.success (e : Execution) : Bool :=
  e.status.code == some 0

/-- The captured execution of a process that has ended. -/
def Execution.ofStreams (most : Nat) (stdout stderr : List (List UInt8)) (status : ExitStatus) : Execution :=
  ⟨Capture.text most stdout, Capture.text most stderr, status⟩

namespace Execution

/-- What a finished run means. A bad end is always a fault; diagnostics of a run that ended well are one or not
by the policy. -/
def classify (e : Execution) (policy : StderrPolicy) : Except Fault RunOutput :=
  if !e.success then .error (.execution e.status e.stderr)
  else if e.stderr.isEmpty then .ok ⟨e.stdout, none⟩
  else match policy with
    | .fail => .error (.runtimeDiagnostic e.stderr)
    | .warn => .ok ⟨e.stdout, some e.stderr⟩

/-- How a built program is started. -/
def invocation (config : Config) (binary : String) : Invocation where
  program := binary
  args := []
  workingDir := config.runDir
  deadline := config.limits.runTimeout

def run (config : Config) (binary : String) : Plan (Except Fault RunOutput) := do
  match ← Plan.launch (invocation config binary) with
  | .refused e =>
    return .error (.execution ⟨none, none⟩ ("failed to start " ++ binary ++ ": " ++ e.message))
  | .overran => return .error (.timeout .executing config.limits.runTimeout)
  | .ended stdout stderr status =>
    return (ofStreams config.limits.maxOutputBytes.toNat stdout stderr status).classify config.stderrPolicy

end Execution

end Tabscript
