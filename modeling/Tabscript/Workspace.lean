import Tabscript.Path
import Tabscript.Plan
import Tabscript.Program
import Tabscript.Text.Utf8

/-!
Workspaces: a folder for each request, which holds the generated program and the binary built from it. A workspace is
removed with all that is in it when it is closed, unless it is to be kept.
-/
namespace Tabscript

/-- The folder of one request, by its absolute path. -/
structure Workspace where
  dir : String
  keep : Bool
  deriving DecidableEq, Repr

namespace Workspace

/-- Opens the workspace of a request below a folder. -/
def create (root id : String) (keep : Bool) : Plan (Except Fault Workspace) := do
  let dir := Path.join root id
  match ← Plan.makeFolders dir with
  | .error e => return .error (.workspace ("creating " ++ dir) e.message)
  | .ok _ =>
    match ← Plan.resolve dir with
    | .error e => return .error (.workspace ("resolving " ++ dir) e.message)
    | .ok path => return .ok ⟨path, keep⟩

/-- Where the generated program is put. -/
def sourcePath (ws : Workspace) : String :=
  Path.join ws.dir "main.cpp"

/-- Where the binary is put. -/
def binaryPath (ws : Workspace) : String :=
  Path.join ws.dir "main"

/-- Puts a program text into the workspace and gives its path. -/
def writeSource (ws : Workspace) (source : String) : Plan (Except Fault String) := do
  match ← Plan.writeFile ws.sourcePath (Text.encode source) with
  | .error e => return .error (.workspace ("writing " ++ ws.sourcePath) e.message)
  | .ok _ => return .ok ws.sourcePath

def close (ws : Workspace) : Plan Unit :=
  if ws.keep then return () else Plan.removeFolder ws.dir

end Workspace
end Tabscript
