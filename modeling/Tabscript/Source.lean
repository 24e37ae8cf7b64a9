import Tabscript.Config
import Tabscript.Path
import Tabscript.Plan
import Tabscript.Submission
import Tabscript.Text.Utf8

/-!
Loading scripts and configurations. A script is read from a file or, for the path `-`, from the input; a file whose
name ends in `.json` holds a submission, and the script is taken out of it.
-/
namespace Tabscript

/-- What lies behind a failure to load something. -/
inductive LoadCause where
  | io (fault : IoFault)
  | json (fault : Json.Fault)
  | submission (fault : Submission.Fault)
  deriving DecidableEq, Repr

def LoadCause.message : LoadCause → String
  | .io fault => fault.message
  | .json fault => fault.message
  | .submission fault => fault.message

/-- A failure to load something: what was being done, and why it failed. -/
structure LoadFault where
  context : String
  cause : LoadCause
  deriving DecidableEq, Repr

/-- A file or input as a text. -/
def textOf (bytes : List UInt8) : Except IoFault String :=
  match Text.decode? bytes with
  | some text => .ok text
  | none => .error .notText

def readTextFile (path : String) : Plan (Except IoFault String) := do
  match ← Plan.readFile path with
  | .error e => return .error e
  | .ok bytes => return textOf bytes

/-- Whether a path names a saved submission. -/
def namesSubmission (path : String) : Bool :=
  match Path.extension? path with
  | none => false
  | some ext => ext.toList.map Char.toLower == ['j', 's', 'o', 'n']

/-- The script that a file with the given path and text holds. -/
def scriptOf (path text : String) : Except LoadFault String :=
  if namesSubmission path then
    match Submission.script text with
    | .ok script => .ok script
    | .error fault => .error ⟨"Parsing " ++ path, .submission fault⟩
  else .ok text

def loadScript (path : String) : Plan (Except LoadFault String) := do
  if path = "-" then
    match textOf (← Plan.readInput) with
    | .ok text => return .ok text
    | .error e => return .error ⟨"Reading script from stdin", .io e⟩
  else
    match ← readTextFile path with
    | .error e => return .error ⟨"Reading " ++ path, .io e⟩
    | .ok text => return scriptOf path text

/-- Loads a configuration, or takes the default one if there is no file for it. -/
def loadConfig (tempDir : String) : Option String → Plan (Except LoadFault Config)
  | none => return .ok (.default tempDir)
  | some path => do
    match ← readTextFile path with
    | .error e => return .error ⟨"Reading config " ++ path, .io e⟩
    | .ok text =>
      match Config.ofText tempDir text with
      | .error fault => return .error ⟨"Parsing config " ++ path, .json fault⟩
      | .ok config => return .ok config

end Tabscript
