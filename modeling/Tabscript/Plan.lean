import Tabscript.Fault

/-!
Plans: what the engine does, as far as it needs the machine that it runs on. A plan asks its host for one effect after
the other and goes on with the reply. It changes nothing by itself, so whatever holds of a plan for every reply
holds on every machine.
-/
namespace Tabscript

/-- Why a host could not do what it was asked for. -/
inductive IoFault where
  | notFound
  | denied
  | present
  | notDirectory
  | isDirectory
  | nameTooLong
  /-- An argument that is longer than a process can be given. -/
  | argumentTooLong
  | unsupported
  /-- A text file that is not UTF-8. -/
  | notText
  /-- A path that holds the character NUL. -/
  | badPath
  /-- An argument that holds the character NUL. -/
  | badArgument
  /-- Anything else, in the words of the host: a full disk, a limit that cannot be set. -/
  | other (message : String)
  deriving DecidableEq, Repr

def IoFault.message : IoFault → String
  | .notFound => "No such file or directory (os error 2)"
  | .argumentTooLong => "Argument list too long (os error 7)"
  | .denied => "Permission denied (os error 13)"
  | .present => "File exists (os error 17)"
  | .notDirectory => "Not a directory (os error 20)"
  | .isDirectory => "Is a directory (os error 21)"
  | .nameTooLong => "File name too long (os error 36)"
  | .unsupported => "Operation not supported (os error 95)"
  | .notText => "stream did not contain valid UTF-8"
  | .badPath => "file name contained an unexpected NUL byte"
  | .badArgument => "nul byte found in provided data"
  | .other message => message

/-- A process to be started. -/
structure Invocation where
  program : String
  args : List String
  /-- The folder to start in; that of the engine if there is none. -/
  workingDir : Option String
  /-- How long to wait for its end, in milliseconds. -/
  deadline : Nat
  deriving DecidableEq, Repr

/-- What became of a process. A stream is the sequence of pieces in which it arrived. -/
inductive Launch where
  /-- It could not be started. -/
  | refused (fault : IoFault)
  /-- It was still going at its deadline, and was stopped. -/
  | overran
  | ended (stdout stderr : List (List UInt8)) (status : ExitStatus)

/-- What a plan can ask its host for. -/
inductive Effect where
  | readInput
  | readFile (path : String)
  | writeFile (path : String) (bytes : List UInt8)
  /-- Makes a folder and those above it, unless they are there. -/
  | makeFolders (path : String)
  /-- The absolute path of something that is there. -/
  | resolve (path : String)
  | isPresent (path : String)
  /-- Removes a folder with all that is in it; a failure is passed over. -/
  | removeFolder (path : String)
  | launch (invocation : Invocation)

def Effect.Reply : Effect → Type
  | .readInput => List UInt8
  | .readFile _ => Except IoFault (List UInt8)
  | .writeFile _ _ => Except IoFault Unit
  | .makeFolders _ => Except IoFault Unit
  | .resolve _ => Except IoFault String
  | .isPresent _ => Bool
  | .removeFolder _ => Unit
  | .launch _ => Launch

/-- A computation that asks its host for effects. -/
inductive Plan (α : Type) : Type where
  | done (result : α)
  | ask (effect : Effect) (next : effect.Reply → Plan α)

namespace Plan

variable {α β : Type}

/-- Goes on with the result of a plan. -/
def bind : Plan α → (α → Plan β) → Plan β
  | .done a, f => f a
  | .ask effect next, f => .ask effect fun reply => bind (next reply) f

instance : Monad Plan where
  pure := .done
  bind := bind

/-- Asks for one effect. -/
def perform (effect : Effect) : Plan effect.Reply :=
  .ask effect .done

/-- Carries a plan out on a host that answers every effect. -/
def run {m : Type → Type} [Monad m] (answer : (effect : Effect) → m effect.Reply) : Plan α → m α
  | .done a => pure a
  | .ask effect next => do
    let reply ← answer effect
    run answer (next reply)

/-- All that is given on the input. -/
def readInput : Plan (List UInt8) :=
  perform .readInput

def readFile (path : String) : Plan (Except IoFault (List UInt8)) :=
  perform (.readFile path)

/-- Puts content into a file, which is made if need be. -/
def writeFile (path : String) (bytes : List UInt8) : Plan (Except IoFault Unit) :=
  perform (.writeFile path bytes)

/-- Makes a folder and those above it. -/
def makeFolders (path : String) : Plan (Except IoFault Unit) :=
  perform (.makeFolders path)

/-- The absolute path of something that is there. -/
def resolve (path : String) : Plan (Except IoFault String) :=
  perform (.resolve path)

def isPresent (path : String) : Plan Bool :=
  perform (.isPresent path)

/-- Removes a folder with all that is in it. -/
def removeFolder (path : String) : Plan Unit :=
  perform (.removeFolder path)

/-- Starts a process and waits for its end. -/
def launch (invocation : Invocation) : Plan Launch :=
  perform (.launch invocation)

end Plan
end Tabscript
