import Tabscript.CommandLine.Parser
import Tabscript.Outcome.Payload
import Tabscript.Pipeline
import Tabscript.Source

/-!
What a command line does. The configuration is loaded first, then the script, and the first failure is told on the
error stream together with its cause. A request that was carried out and failed is no failure of this kind: its
outcome is printed like that of one that succeeded, and only the exit code tells them apart.
-/
namespace Tabscript

/-- What is left of a command line once it is done: its exit code and what it has written. -/
structure Transcript where
  exit : Nat
  stdout : String
  stderr : String
  deriving DecidableEq, Repr

namespace CommandLine

/-- Where and how a command line is given. -/
structure Setting where
  /-- The folder for temporary files. -/
  tempDir : String
  /-- The path that the environment gives for the configuration. -/
  configPath : Option String
  /-- The identifier of the request, should there be one. -/
  requestId : String
  deriving DecidableEq, Repr

def versionText : String :=
  "dsl2cpp 0.1.0\n"

def helpText : String :=
  String.join [
    "Usage: dsl2cpp [OPTIONS] <COMMAND>\n\n",
    "Commands:\n",
    "  run <SCRIPT>                 Build and run a script, and print the outcome as JSON\n",
    "  emit <SCRIPT> [-o <OUTPUT>]  Print the generated program without building it\n",
    "  catalog                      List every operation\n",
    "  serve [--addr <ADDR>]        Serve requests\n",
    "  help                         Print this help\n\n",
    "Options:\n",
    "      --config <CONFIG>        Configuration file\n",
    "      --workspace <WORKSPACE>  Folder for the workspaces of requests\n",
    "      --compiler <COMPILER>    Compiler to call\n",
    "      --keep-workspaces        Leave workspaces behind\n",
    "      --allow-stderr           Take diagnostics of a successful run as a warning\n",
    "  -v, --verbose                Log more\n",
    "  -h, --help                   Print help\n",
    "  -V, --version                Print version\n"]

def Usage.message : Usage → String
  | .help => "help is asked for"
  | .version => "the version is asked for"
  | .nothingGiven => "nothing is given"
  | .commandMissing => "a command is required"
  | .unknownCommand => "unrecognized command"
  | .scriptMissing => "a script is required"
  | .unknownArgument => "unexpected argument"
  | .valueMissing => "a value is required"
  | .badAddress => "invalid address"
  | .conflict => "an option cannot be used multiple times"
  | .unwantedValue => "unexpected value"

/-- The transcript of a command line that asks for nothing that can be done. -/
def Usage.transcript : Usage → Transcript
  | .help => ⟨0, helpText, ""⟩
  | .version => ⟨0, versionText, ""⟩
  | .nothingGiven => ⟨2, "", helpText⟩
  | u => ⟨2, "", "error: " ++ u.message ++ "\n"⟩

/-- A cause under the line that announces it: its lines are indented. -/
def indentCause (cause : String) : String :=
  String.intercalate "\n" ((cause.splitOn "\n").map ("    " ++ ·))

/-- The transcript of a command that could not be carried out. -/
def failure (context cause : String) : Transcript :=
  ⟨1, "", "Error: " ++ context ++ "\n\nCaused by:\n" ++ indentCause cause ++ "\n"⟩

/-- The transcript of a failure to load something. -/
def loadFailure (fault : LoadFault) : Transcript :=
  failure fault.context fault.cause.message

/-- A text filled up with blanks to a width. -/
def padded (width : Nat) (text : String) : String :=
  text ++ String.ofList (List.replicate (width - text.length) ' ')

def listingLine (entry : Entry) : String :=
  padded 22 entry.name ++ " " ++ padded 24 entry.arity.describe ++ " " ++ entry.declaration ++ "\n"

def listing : String :=
  String.join (catalog.map listingLine)

/-- The transcript of a request. -/
def outcomeTranscript (outcome : Outcome) : Transcript :=
  ⟨if outcome.success then 0 else 1, outcome.toJson.indented ++ "\n", ""⟩

/-- Translates a script and writes the program. -/
def writeProgram (script : String) (output : Option String) : Plan Transcript :=
  match Script.translate script with
  | .error fault => return failure "Translating script" fault.message
  | .ok statements => do
    let source := (Program.assemble statements).source
    match output with
    | none => return ⟨0, source, ""⟩
    | some path =>
      match ← Plan.writeFile path (Text.encode source) with
      | .error e => return failure ("Writing " ++ path) e.message
      | .ok _ => return ⟨0, "", ""⟩

/-- Carries out a command with a configuration. To serve requests takes a socket, which no host has to offer. -/
def Command.execute (config : Config) (requestId : String) : Command → Plan Transcript
  | .run path => do
    match ← loadScript path with
    | .error fault => return loadFailure fault
    | .ok script => return outcomeTranscript (← Pipeline.process config requestId script)
  | .emit path output => do
    match ← loadScript path with
    | .error fault => return loadFailure fault
    | .ok script => writeProgram script output
  | .catalog => return ⟨0, listing, ""⟩
  | .serve address => return failure ("Binding " ++ address.text) IoFault.unsupported.message

/-- Carries out a command line, given by its words without the name of the program. -/
def carryOut (setting : Setting) (words : List String) : Plan Transcript :=
  match parse setting.configPath words with
  | .error usage => return usage.transcript
  | .ok arguments => do
    match ← loadConfig setting.tempDir arguments.globals.config with
    | .error fault => return loadFailure fault
    | .ok config => arguments.command.execute (arguments.globals.apply config) setting.requestId

end CommandLine
end Tabscript
