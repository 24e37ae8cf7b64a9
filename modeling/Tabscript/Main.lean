import Tabscript.Session

/-!
The command line. Files, the input and the environment are those of the machine; nothing is started on it, so a script
can be translated here but not built.
-/
namespace Tabscript.Host

/-- The fault that an error of the machine stands for. -/
def faultOf : IO.Error → IoFault
  | .noFileOrDirectory .. => .notFound
  | .permissionDenied .. => .denied
  | .alreadyExists .. => .present
  | .inappropriateType .. => .isDirectory
  | e => .other (toString e)

/-- The result of an action, with an error of the machine as a fault. -/
def attempt {α : Type} (action : IO α) : IO (Except IoFault α) := do
  match ← action.toBaseIO with
  | .ok a => return .ok a
  | .error e => return .error (faultOf e)

/-- Reads a stream to its end. -/
partial def readAll (stream : IO.FS.Stream) (before : ByteArray) : IO ByteArray := do
  let piece ← stream.read 65536
  if piece.isEmpty then return before else readAll stream (before ++ piece)

def isPresent (path : String) : IO Bool := do
  match ← attempt (IO.FS.realPath path) with
  | .ok found => found.pathExists
  | .error _ => return false

def answer : (effect : Effect) → IO effect.Reply
  | .readInput => do return (← readAll (← IO.getStdin) ByteArray.empty).toList
  | .readFile path => attempt do return (← IO.FS.readBinFile path).toList
  | .writeFile path bytes => attempt (IO.FS.writeBinFile path ⟨bytes.toArray⟩)
  | .makeFolders path => attempt (IO.FS.createDirAll path)
  | .resolve path => attempt do return (← IO.FS.realPath path).toString
  | .isPresent path => isPresent path
  | .removeFolder path => do let _ ← attempt (IO.FS.removeDirAll path)
  | .launch _ => return .refused .unsupported

end Tabscript.Host

open Tabscript in
def main (words : List String) : IO UInt32 := do
  let tempDir := (← IO.getEnv "TMPDIR").getD "/tmp"
  let setting : CommandLine.Setting := ⟨tempDir, ← IO.getEnv "DSL2CPP_CONFIG", toString (← IO.monoNanosNow)⟩
  let done ← (CommandLine.carryOut setting words).run Host.answer
  IO.print done.stdout
  IO.eprint done.stderr
  return done.exit.toUInt32
