import Tabscript.FileTree
import Tabscript.Text.Utf8

/-!
A machine on which processes do what they are told beforehand: what a compiler and the programs it builds write, what
they leave behind and how they end. With it a request can be followed to its end without starting anything.
-/
namespace Tabscript

/-- How a process comes to its end. -/
inductive Ending where
  | exits (code : Nat)
  | killed (signal : Int)
  /-- It never ends by itself. -/
  | hangs
  deriving DecidableEq, Repr

/-- What a compiler does when it is called. -/
structure Compiler where
  stdout : List UInt8
  stderr : List UInt8
  /-- Writes its arguments, each on a line of its own in brackets. -/
  echoesArgs : Bool
  /-- Writes the main function of the program it is given. -/
  echoesSource : Bool
  /-- Leaves a binary. -/
  writesBinary : Bool
  ending : Ending
  deriving DecidableEq, Repr

/-- What a built program does when it is started. -/
structure Behaviour where
  stdout : List UInt8
  stderr : List UInt8
  /-- Writes the folder it runs in. -/
  tellsFolder : Bool
  /-- Writes how many arguments it has been given. -/
  tellsArgs : Bool
  /-- May not be started at all. -/
  denied : Bool
  ending : Ending
  deriving DecidableEq, Repr

/-- A machine: the folder that the engine runs in, the compiler with the name by which it is called, and the programs
that it builds. -/
structure Machine where
  cwd : Location
  input : List UInt8
  compilerName : String
  compiler : Compiler
  program : Behaviour

namespace Ending

/-- Whether a process is still going at its deadline. One that ends does so quickly, but not at once. -/
def overruns (ending : Ending) (deadline : Nat) : Bool :=
  ending = .hangs || deadline = 0

/-- A process that writes its streams and comes to its end, if it does so before its deadline. Only the low eight bits
of its code can be seen. -/
def launch (ending : Ending) (deadline : Nat) (stdout stderr : List UInt8) : Launch :=
  if ending.overruns deadline then .overran
  else match ending with
    | .exits code => .ended [stdout] [stderr] ⟨some ((code % 256 : Nat) : Int), none⟩
    | .killed signal => .ended [stdout] [stderr] ⟨none, some signal⟩
    | .hangs => .overran

end Ending

namespace Machine

/-- The text from the first line `int main() {` on. -/
def mainPart : List String → List String
  | [] => []
  | line :: more => if line = "int main() " ++ '{'.toString then line :: more else mainPart more

def mainText (source : String) : String :=
  String.intercalate "\n" (mainPart (source.splitOn "\n"))

/-- The arguments before and after `-o`. -/
def aroundOutput : List String → Option (String × String)
  | source :: "-o" :: binary :: _ => some (source, binary)
  | _ :: more => aroundOutput more
  | [] => none

/-- The content by which a binary can be told from other files. -/
def binaryContent : List UInt8 :=
  [0x7F, 0x45, 0x4C, 0x46]

/-- Calls the compiler. -/
def compile (m : Machine) (deadline : Nat) (args : List String) : StateM FileTree Launch := fun t =>
  let c := m.compiler
  let echoed := if c.echoesArgs then Text.encode (String.join (args.map fun a => "[" ++ a ++ "]\n")) else []
  match aroundOutput args with
  | none => (c.ending.launch deadline (c.stdout ++ echoed) c.stderr, t)
  | some (source, binary) =>
    let text := match t.readFile m.cwd source with
      | .ok bytes => if c.echoesSource then Text.encode (mainText (Text.decodeLossy bytes)) else []
      | .error _ => []
    let writes := c.writesBinary && !c.ending.overruns deadline
    let after := if writes then (t.writeFile m.cwd binary binaryContent).2 else t
    (c.ending.launch deadline (c.stdout ++ echoed ++ text) c.stderr, after)

/-- Starts a built program in a folder. -/
def start (m : Machine) (folder : Location) (deadline : Nat) (args : List String) : Launch :=
  let p := m.program
  if p.denied then .refused .denied
  else
    let place := if p.tellsFolder then Text.encode (FileTree.absolute folder ++ "\n") else []
    let count := if p.tellsArgs then Text.encode (toString args.length ++ "\n") else []
    p.ending.launch deadline (p.stdout ++ place ++ count) p.stderr

def argumentsFit (args : List String) : Bool :=
  args.all fun a => a.utf8ByteSize < 131072

/-- What the commands that are there on every machine write, and the codes they end with. -/
def commands (args : List String) : List (String × String × Nat) :=
  [("true", "", 0), ("false", "", 1), ("echo", String.intercalate " " args ++ "\n", 0)]

/-- Runs a command by its name. A dot or two name a folder among the commands. -/
def command (name : String) (deadline : Nat) (args : List String) : Launch :=
  if FileTree.tooLong name then .refused .nameTooLong
  else if name = "." || name = ".." then .refused .denied
  else match (commands args).lookup name with
    | none => .refused .notFound
    | some (output, code) =>
      if argumentsFit args then (Ending.exits code).launch deadline (Text.encode output) []
      else .refused .argumentTooLong

/-- The name of a command that is given by its path. -/
def commandName? (path : String) : Option String :=
  if Path.isAbsolute path && !Path.endsInSlash path then
    match Path.pieces path with
    | ["bin", name] => some name
    | ["usr", "bin", name] => some name
    | _ => none
  else none

/-- The folder in which a process is to start. -/
def folderOf (m : Machine) (t : FileTree) : Option String → Except IoFault Location
  | none => .ok m.cwd
  | some dir =>
    match t.locate m.cwd dir with
    | .error e => .error e
    | .ok l => if t.isFolder l then .ok l else .error .notDirectory

/-- Starts the file at a path, which has to be a binary. -/
def startFile (m : Machine) (t : FileTree) (folder : Location) (inv : Invocation) : Launch :=
  match t.locate m.cwd inv.program with
  | .error e => .refused e
  | .ok l => if t.get? l = some (.file binaryContent) then m.start folder inv.deadline inv.args else .refused .denied

/-- Starts a process. A name with a slash is the path of a binary; any other is looked up among the commands. -/
def launch (m : Machine) (inv : Invocation) : StateM FileTree Launch := fun t =>
  if (inv.program :: inv.args).any FileTree.hasNul then (.refused .badArgument, t)
  else match m.folderOf t inv.workingDir with
    | .error e => (.refused e, t)
    | .ok folder =>
      if inv.program = m.compilerName then
        if argumentsFit inv.args then m.compile inv.deadline inv.args t else (.refused .argumentTooLong, t)
      else if inv.program.toList.contains '/' then
        match (commandName? inv.program).filter fun name => ((commands []).lookup name).isSome with
        | some name => (command name inv.deadline inv.args, t)
        | none => (m.startFile t folder inv, t)
      else (command inv.program inv.deadline inv.args, t)

def answer (m : Machine) : (effect : Effect) → StateM FileTree effect.Reply :=
  FileTree.answer m.cwd m.input m.launch

/-- Carries a plan out on a machine with the given files. -/
def carryOut {α : Type} (m : Machine) (plan : Plan α) (t : FileTree) : α × FileTree :=
  (plan.run m.answer) t

end Machine
end Tabscript
