import Tabscript.Address
import Tabscript.Config

/-!
What can be asked for on the command line: one of four commands, and options that go with all of them. The options are
laid over the configuration, each only if it is given.
-/
namespace Tabscript.CommandLine

/-- What is asked for. -/
inductive Command where
  /-- Build and run a script. -/
  | run (script : String)
  /-- Write the program of a script, to a file or to the output. -/
  | emit (script : String) (output : Option String)
  /-- List the operations. -/
  | catalog
  /-- Serve requests at an address. -/
  | serve (address : Address)
  deriving DecidableEq, Repr

/-- The options that go with every command. -/
structure Globals where
  config : Option String
  workspace : Option String
  compiler : Option String
  keepWorkspaces : Bool
  allowStderr : Bool
  verbose : Nat
  deriving DecidableEq, Repr

/-- A whole command line. -/
structure Arguments where
  globals : Globals
  command : Command
  deriving DecidableEq, Repr

/-- Lays the options over a configuration. -/
def Globals.apply (g : Globals) (c : Config) : Config :=
  { c with
    workspaceRoot := g.workspace.getD c.workspaceRoot
    toolchain := { c.toolchain with compiler := g.compiler.getD c.toolchain.compiler }
    keepWorkspaces := g.keepWorkspaces || c.keepWorkspaces
    stderrPolicy := if g.allowStderr then .warn else c.stderrPolicy }

/-- Why a command line asks for nothing that can be done, or for a text about it. -/
inductive Usage where
  /-- The help text is asked for. -/
  | help
  /-- The version is asked for. -/
  | version
  /-- There is nothing on the command line. -/
  | nothingGiven
  /-- There are options but no command. -/
  | commandMissing
  | unknownCommand
  | scriptMissing
  /-- An option that is not known, or a word too many. -/
  | unknownArgument
  /-- An option without its value, or an empty path. -/
  | valueMissing
  /-- A value that is no address. -/
  | badAddress
  /-- The same option twice. -/
  | conflict
  /-- A value for an option that takes none. -/
  | unwantedValue
  deriving DecidableEq, Repr

end Tabscript.CommandLine
