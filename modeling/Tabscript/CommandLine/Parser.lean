import Tabscript.CommandLine

/-!
Reading a command line, word by word. The words before the command and those after it are read separately, and each
side knows the global options; where both give one, the one after the command counts. A value that stands in a word
of its own is looked at only when the next option, the next word or the end comes, so that a fault of a later word
can come before it.
-/
namespace Tabscript.CommandLine

/-- What a word or a value can belong to. -/
inductive Opt where
  | config
  | workspace
  | compiler
  | keepWorkspaces
  | allowStderr
  | verbose
  | help
  | version
  | output
  | addr
  | script
  deriving DecidableEq, Repr

/-- What an option does with the words around it. -/
inductive OptKind where
  | takesPath
  | takesText
  | takesAddress
  /-- Stands alone, once. -/
  | switch
  /-- Stands alone, any number of times. -/
  | counter
  | asksHelp
  | asksVersion
  deriving DecidableEq, Repr

def Opt.kind : Opt → OptKind
  | .config => .takesPath
  | .workspace => .takesPath
  | .compiler => .takesText
  | .keepWorkspaces => .switch
  | .allowStderr => .switch
  | .verbose => .counter
  | .help => .asksHelp
  | .version => .asksVersion
  | .output => .takesPath
  | .addr => .takesAddress
  | .script => .takesPath

def Opt.takesValue (opt : Opt) : Bool :=
  match opt.kind with
  | .takesPath => true
  | .takesText => true
  | .takesAddress => true
  | _ => false

/-- The part of a command line that is being read: the words before the command, or those of a command. -/
inductive Level where
  | root
  | run
  | emit
  | catalog
  | serve
  deriving DecidableEq, Repr

/-- The long options that are known everywhere. -/
def globalOptions : List (String × Opt) :=
  [("config", .config), ("workspace", .workspace), ("compiler", .compiler), ("keep-workspaces", .keepWorkspaces),
    ("allow-stderr", .allowStderr), ("verbose", .verbose), ("help", .help)]

namespace Level

def longOptions : Level → List (String × Opt)
  | .root => globalOptions ++ [("version", .version)]
  | .run => globalOptions
  | .emit => globalOptions ++ [("output", .output)]
  | .catalog => globalOptions
  | .serve => globalOptions ++ [("addr", .addr)]

def shortOptions : Level → List (Char × Opt)
  | .root => [('v', .verbose), ('h', .help), ('V', .version)]
  | .run => [('v', .verbose), ('h', .help)]
  | .emit => [('v', .verbose), ('h', .help), ('o', .output)]
  | .catalog => [('v', .verbose), ('h', .help)]
  | .serve => [('v', .verbose), ('h', .help)]

/-- Whether a script has to be given. -/
def takesScript : Level → Bool
  | .run => true
  | .emit => true
  | _ => false

end Level

/-- The commands by name; `help` is one too. -/
def commandNames : List (String × Option Level) :=
  [("run", some .run), ("emit", some .emit), ("catalog", some .catalog), ("serve", some .serve), ("help", none)]

/-- The fault of a word that has no place. Where a command is due the word was meant to be one, unless it is one and
only the `--` before it is in the way. -/
def misplaced (level : Level) (trailing : Bool) (word : String) : Usage :=
  if level = .root && !(trailing && (commandNames.lookup word).isSome) then .unknownCommand else .unknownArgument

/-- What has been found on one side of the command line. -/
structure Found where
  texts : List (Opt × String)
  switches : List Opt
  verbose : Nat

/-- How far one side has been read. -/
structure Scan where
  found : Found
  /-- An option or place and the value that was given for it, not yet looked at. -/
  pending : Option (Opt × Option String)
  /-- Whether the next word is the value of the pending option, unless it is an option itself. -/
  awaiting : Bool
  /-- Whether `--` has been read. -/
  trailing : Bool
  /-- Whether the script has been given. -/
  placed : Bool

def Scan.start : Scan :=
  ⟨⟨[], [], 0⟩, none, false, false, false⟩

namespace Found

def checkValue (opt : Opt) (value : String) : Except Usage Unit :=
  match opt.kind with
  | .takesPath => if value.isEmpty then .error .valueMissing else .ok ()
  | .takesAddress => if (Address.ofText? value).isSome then .ok () else .error .badAddress
  | _ => .ok ()

/-- Takes up a value. -/
def store (f : Found) (opt : Opt) (value : String) : Except Usage Found :=
  if f.texts.any (fun p => p.1 == opt) then .error .conflict
  else match checkValue opt value with
    | .error u => .error u
    | .ok _ => .ok { f with texts := f.texts ++ [(opt, value)] }

/-- Takes up an option that stands alone. -/
def mark (f : Found) (opt : Opt) : Except Usage Found :=
  match opt.kind with
  | .asksHelp => .error .help
  | .asksVersion => .error .version
  | .counter => .ok { f with verbose := min 255 (f.verbose + 1) }
  | _ => if f.switches.contains opt then .error .conflict else .ok { f with switches := f.switches ++ [opt] }

/-- The value that was given for an option. -/
def text? (f : Found) (opt : Opt) : Option String :=
  f.texts.lookup opt

def isEmpty (f : Found) : Bool :=
  f.texts.isEmpty && f.switches.isEmpty && f.verbose == 0

end Found

namespace Scan

/-- Looks at the pending value. -/
def settle (s : Scan) : Except Usage Scan :=
  match s.pending with
  | none => .ok { s with awaiting := false }
  | some (_, none) => .error .valueMissing
  | some (opt, some value) =>
    match s.found.store opt value with
    | .error u => .error u
    | .ok f => .ok { s with found := f, pending := none, awaiting := false }

/-- Takes an option, with the value that is attached to it, if there is one. -/
def takeOption (s : Scan) (opt : Opt) (attached : Option String) : Except Usage Scan :=
  match s.settle with
  | .error u => .error u
  | .ok s =>
    if opt.takesValue then
      match attached with
      | none => .ok { s with pending := some (opt, none), awaiting := true }
      | some value =>
        match s.found.store opt value with
        | .error u => .error u
        | .ok f => .ok { s with found := f }
    else
      match s.found.mark opt with
      | .error u => .error u
      | .ok f => .ok { s with found := f }

/-- Takes a long option, given by its name and the value after an equals sign. -/
def takeLong (level : Level) (s : Scan) (name : String) (attached : Option String) : Except Usage Scan :=
  match level.longOptions.lookup name with
  | none => .error .unknownArgument
  | some opt =>
    if !opt.takesValue && attached.isSome then .error .unwantedValue else s.takeOption opt attached

/-- Takes options of one letter. The rest of the word after one that takes a value is its value, with or without an
equals sign. -/
def takeShort (level : Level) (s : Scan) : List Char → Except Usage Scan
  | [] => .ok s
  | c :: rest =>
    match level.shortOptions.lookup c with
    | none => .error .unknownArgument
    | some opt =>
      if opt.takesValue then
        match rest with
        | [] => s.takeOption opt none
        | '=' :: value => s.takeOption opt (some (String.ofList value))
        | value => s.takeOption opt (some (String.ofList value))
      else
        match s.takeOption opt none with
        | .error u => .error u
        | .ok s => takeShort level s rest

/-- Takes a word that is no option. -/
def takeWord (level : Level) (s : Scan) (word : String) : Except Usage Scan :=
  if level.takesScript && !s.placed then
    match s.settle with
    | .error u => .error u
    | .ok s => .ok { s with pending := some (.script, some word), placed := true }
  else .error (misplaced level s.trailing word)

/-- Splits a long option at its first equals sign. -/
def splitLong (cs : List Char) : String × Option String :=
  let name := String.ofList (cs.takeWhile (· != '='))
  match cs.dropWhile (· != '=') with
  | [] => (name, none)
  | _ :: value => (name, some (String.ofList value))

/-- Takes one word, before any `--`. -/
def take (level : Level) (s : Scan) (word : String) : Except Usage Scan :=
  match word.toList with
  | '-' :: '-' :: [] => .ok { s with trailing := true }
  | '-' :: '-' :: cs =>
    let (name, attached) := splitLong cs
    takeLong level s name attached
  | '-' :: c :: cs => takeShort level s (c :: cs)
  | _ =>
    match s.awaiting, s.pending with
    | true, some (opt, _) => .ok { s with pending := some (opt, some word), awaiting := false }
    | _, _ => takeWord level s word

/-- Reads words up to the name of a command, if the level has commands, or to the end. Gives the command and the
words after its name. -/
def readWords (level : Level) (s : Scan) :
    List String → Except Usage (Scan × Option (Option Level × List String))
  | [] => .ok (s, none)
  | word :: more =>
    if s.trailing then
      match takeWord level s word with
      | .error u => .error u
      | .ok s => readWords level s more
    else
      match if level = .root && !s.awaiting then commandNames.lookup word else none with
      | some command => .ok (s, some (command, more))
      | none =>
        match take level s word with
        | .error u => .error u
        | .ok s => readWords level s more

/-- Ends one side: the pending value is looked at, and then the path that the environment gives for the
configuration, if this side does not give one. -/
def finish (s : Scan) (envPath : Option String) : Except Usage Found :=
  match s.settle with
  | .error u => .error u
  | .ok s =>
    match s.found.text? .config, envPath with
    | none, some value =>
      match Found.checkValue .config value with
      | .error u => .error u
      | .ok _ => .ok s.found
    | _, _ => .ok s.found

end Scan

/-- The words after `help`: nothing, or one command. -/
def helpOn : List String → Usage
  | [] => .help
  | [name] => if (commandNames.lookup name).isSome then .help else .unknownCommand
  | _ :: _ :: _ => .unknownCommand

def defaultAddress : Address :=
  ⟨.v4 127 0 0 1, 3001⟩

/-- The command of a level, from what was found after its name. -/
def commandOf (level : Level) (f : Found) : Except Usage Command :=
  match level with
  | .root => .error .commandMissing
  | .catalog => .ok .catalog
  | .serve => .ok (.serve (((f.text? .addr).bind Address.ofText?).getD defaultAddress))
  | .run =>
    match f.text? .script with
    | none => .error .scriptMissing
    | some script => .ok (.run script)
  | .emit =>
    match f.text? .script with
    | none => .error .scriptMissing
    | some script => .ok (.emit script (f.text? .output))

/-- The global options of both sides; `envPath` is the path that the environment gives for the configuration. -/
def globalsOf (before after : Found) (envPath : Option String) : Globals where
  config := ((after.text? .config).or (before.text? .config)).or envPath
  workspace := (after.text? .workspace).or (before.text? .workspace)
  compiler := (after.text? .compiler).or (before.text? .compiler)
  keepWorkspaces := after.switches.contains .keepWorkspaces || before.switches.contains .keepWorkspaces
  allowStderr := after.switches.contains .allowStderr || before.switches.contains .allowStderr
  verbose := if after.verbose = 0 then before.verbose else after.verbose

/-- Reads the words of a command line, without the name of the program. -/
def parse (envPath : Option String) (words : List String) : Except Usage Arguments :=
  match Scan.readWords .root .start words with
  | .error u => .error u
  | .ok (s, none) =>
    match s.finish envPath with
    | .error u => .error u
    | .ok f => if f.isEmpty && envPath.isNone then .error .nothingGiven else .error .commandMissing
  | .ok (_, some (none, more)) => .error (helpOn more)
  | .ok (s, some (some level, more)) =>
    match Scan.readWords level .start more with
    | .error u => .error u
    | .ok (inner, _) =>
      match inner.finish envPath with
      | .error u => .error u
      | .ok after =>
        match commandOf level after with
        | .error u => .error u
        | .ok command =>
          match s.finish envPath with
          | .error u => .error u
          | .ok before => .ok ⟨globalsOf before after envPath, command⟩

end Tabscript.CommandLine
