import Tabscript.Execution
import Tabscript.Workspace

/-!
Building a program: its text is put into the workspace and the compiler is called on it. A build is good only if the
compiler ends well, is silent on its diagnostics stream and has left a binary.
-/
namespace Tabscript.Build

/-- How a compiler that has written nothing is reported. -/
def silentEnd : ExitStatus → String
  | ⟨some code, _⟩ => "compiler exited with status " ++ toString code
  | ⟨none, some signal⟩ => "compiler terminated by signal " ++ toString signal
  | ⟨none, none⟩ => "compiler terminated abnormally"

/-- A build is good if the compiler ended well and had nothing to say on its diagnostics stream. -/
def check (e : Execution) : Except Fault Unit :=
  if e.success && e.stderr.isEmpty then .ok ()
  else if !e.stderr.isEmpty then .error (.compilation e.stderr)
  else if !e.stdout.isEmpty then .error (.compilation e.stdout)
  else .error (.compilation (silentEnd e.status))

/-- How the compiler is called: flags, source, binary, and arguments for linking. -/
def invocation (config : Config) (source binary : String) : Invocation where
  program := config.toolchain.compiler
  args := config.toolchain.flags ++ [source, "-o", binary] ++ config.toolchain.linkArgs
  workingDir := none
  deadline := config.limits.buildTimeout

/-- Puts a program into its workspace and builds it; gives the path of the binary. -/
def compile (config : Config) (ws : Workspace) (source : String) : Plan (Except Fault String) := do
  match ← ws.writeSource source with
  | .error fault => return .error fault
  | .ok path =>
    match ← Plan.launch (invocation config path ws.binaryPath) with
    | .refused e =>
      return .error (.compilation ("failed to run " ++ config.toolchain.compiler ++ ": " ++ e.message))
    | .overran => return .error (.timeout .building config.limits.buildTimeout)
    | .ended stdout stderr status =>
      match check (Execution.ofStreams config.limits.maxOutputBytes.toNat stdout stderr status) with
      | .error fault => return .error fault
      | .ok _ =>
        if ← Plan.isPresent ws.binaryPath then return .ok ws.binaryPath
        else return .error (.compilation ("compiler produced no binary at " ++ ws.binaryPath))

end Tabscript.Build
