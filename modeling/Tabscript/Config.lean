import Tabscript.Json.Decode
import Tabscript.Path

/-!
Settings of the engine. A configuration text is JSON and is laid over the defaults: what it leaves out keeps its
default at every depth, and names that it does not know are passed over. A limit of memory or time can be lifted by
giving `null`, which is different from leaving it out.
-/
namespace Tabscript

/-- What it means when a program ends well but has written diagnostics. -/
inductive StderrPolicy where
  /-- The request fails. -/
  | fail
  /-- The request succeeds, and the diagnostics are handed back as warnings. -/
  | warn
  deriving DecidableEq, Repr

/-- The compiler and its arguments. -/
structure Toolchain where
  compiler : String
  /-- Given before the source. -/
  flags : List String
  /-- Given after the binary. -/
  linkArgs : List String
  deriving DecidableEq, Repr

/-- Bounds on the building and running of a program. -/
structure Limits where
  buildTimeoutSecs : UInt64
  runTimeoutSecs : UInt64
  memoryLimitMb : Option UInt64
  cpuTimeLimitSecs : Option UInt64
  /-- How many bytes are kept of each stream that a process writes. -/
  maxOutputBytes : UInt64
  deriving DecidableEq, Repr

/-- The settings of the engine. -/
structure Config where
  /-- The folder that holds a workspace for each request. -/
  workspaceRoot : String
  /-- Whether workspaces stay when their request is over. -/
  keepWorkspaces : Bool
  toolchain : Toolchain
  limits : Limits
  stderrPolicy : StderrPolicy
  maxConcurrentRuns : UInt64
  /-- The folder in which programs run; the one of the engine if there is none. -/
  runDir : Option String
  deriving DecidableEq, Repr

namespace StderrPolicy

def name : StderrPolicy → String
  | .fail => "fail"
  | .warn => "warn"

def ofName (s : String) : Except Json.Fault StderrPolicy :=
  if s = "fail" then .ok .fail
  else if s = "warn" then .ok .warn
  else .error (.misfit ("unknown variant `" ++ s ++ "`, expected `fail` or `warn`"))

def ofDraft : Json.Draft → Except Json.Fault StderrPolicy
  | .string (.ok s) => ofName s
  | .string (.error f) => .error f
  | .object [] after =>
    match after with
    | some d => .error d.kept
    | none => .error .malformed
  | .object ((key, v) :: more) after =>
    match key.read with
    | .error f => .error f
    | .ok s =>
      match ofName s with
      | .error f => .error f
      | .ok policy =>
        match v with
        | .null =>
          match more, after with
          | [], none => .ok policy
          | [], some d => .error d.kept
          | _ :: _, _ => .error .malformed
        | v => .error (v.mismatch "unit")
  | .defect d => .error d.unwanted
  | _ => .error .malformed

end StderrPolicy

namespace Toolchain

/-- The toolchain of an empty configuration. -/
def default : Toolchain :=
  ⟨"g++", ["-std=c++17"], []⟩

def record : Json.Record Toolchain where
  name := "ToolchainConfig"
  fields := ["compiler", "flags", "link_args"]
  field? key := if ["compiler", "flags", "link_args"].contains key then some key else none
  assign field v t :=
    if field = "compiler" then (v.toText "a string").map fun s => { t with compiler := s }
    else if field = "flags" then (v.toList (Json.Draft.toText "a string")).map fun l => { t with flags := l }
    else (v.toList (Json.Draft.toText "a string")).map fun l => { t with linkArgs := l }

def ofDraft (d : Json.Draft) : Except Json.Fault Toolchain :=
  (record.read default d).map Prod.fst

def toJson (t : Toolchain) : Json :=
  .object [("compiler", .string t.compiler), ("flags", .array (t.flags.map .string)),
    ("link_args", .array (t.linkArgs.map .string))]

end Toolchain

namespace Limits

/-- The limits of an empty configuration. -/
def default : Limits :=
  ⟨120, 30, some 1024, some 30, 1048576⟩

/-- The fields of limits, in order. -/
def fields : List String :=
  ["build_timeout_secs", "run_timeout_secs", "memory_limit_mb", "cpu_time_limit_secs", "max_output_bytes"]

def record : Json.Record Limits where
  name := "Limits"
  fields := fields
  field? key := if fields.contains key then some key else none
  assign field v l :=
    if field = "build_timeout_secs" then (v.toWord "u64").map fun n => { l with buildTimeoutSecs := n }
    else if field = "run_timeout_secs" then (v.toWord "u64").map fun n => { l with runTimeoutSecs := n }
    else if field = "memory_limit_mb" then
      (v.toOption (Json.Draft.toWord "u64")).map fun n => { l with memoryLimitMb := n }
    else if field = "cpu_time_limit_secs" then
      (v.toOption (Json.Draft.toWord "u64")).map fun n => { l with cpuTimeLimitSecs := n }
    else (v.toWord "usize").map fun n => { l with maxOutputBytes := n }

def ofDraft (d : Json.Draft) : Except Json.Fault Limits :=
  (record.read default d).map Prod.fst

/-- A number of 64 bits as JSON. -/
def wordJson (n : UInt64) : Json :=
  .number n.toNat

/-- A limit that may be lifted as JSON. -/
def limitJson : Option UInt64 → Json
  | none => .null
  | some n => wordJson n

def toJson (l : Limits) : Json :=
  .object [("build_timeout_secs", wordJson l.buildTimeoutSecs), ("run_timeout_secs", wordJson l.runTimeoutSecs),
    ("memory_limit_mb", limitJson l.memoryLimitMb), ("cpu_time_limit_secs", limitJson l.cpuTimeLimitSecs),
    ("max_output_bytes", wordJson l.maxOutputBytes)]

/-- The deadline for building, in milliseconds. -/
def buildTimeout (l : Limits) : Nat :=
  l.buildTimeoutSecs.toNat * 1000

/-- The deadline for running, in milliseconds. -/
def runTimeout (l : Limits) : Nat :=
  l.runTimeoutSecs.toNat * 1000

end Limits

namespace Config

/-- The configuration that an empty text gives, on a machine with the given folder for temporary files. -/
def default (tempDir : String) : Config where
  workspaceRoot := Path.join tempDir "dsl2cpp"
  keepWorkspaces := false
  toolchain := .default
  limits := .default
  stderrPolicy := .fail
  maxConcurrentRuns := 4
  runDir := none

/-- The fields of a configuration, in order. -/
def fields : List String :=
  ["workspace_root", "keep_workspaces", "toolchain", "limits", "stderr_policy", "max_concurrent_runs", "run_dir"]

def record : Json.Record Config where
  name := "EngineConfig"
  fields := fields
  field? key := if fields.contains key then some key else none
  assign field v c :=
    if field = "workspace_root" then (v.toText "path string").map fun s => { c with workspaceRoot := s }
    else if field = "keep_workspaces" then v.toBool.map fun b => { c with keepWorkspaces := b }
    else if field = "toolchain" then (Toolchain.ofDraft v).map fun t => { c with toolchain := t }
    else if field = "limits" then (Limits.ofDraft v).map fun l => { c with limits := l }
    else if field = "stderr_policy" then (StderrPolicy.ofDraft v).map fun p => { c with stderrPolicy := p }
    else if field = "max_concurrent_runs" then (v.toWord "usize").map fun n => { c with maxConcurrentRuns := n }
    else (v.toOption (Json.Draft.toText "path string")).map fun s => { c with runDir := s }

def ofDraft (tempDir : String) (d : Json.Draft) : Except Json.Fault Config :=
  (record.read (default tempDir) d).map Prod.fst

/-- Reads a configuration text. -/
def ofText (tempDir text : String) : Except Json.Fault Config :=
  Json.decode (ofDraft tempDir) text

def toJson (c : Config) : Json :=
  .object [("workspace_root", .string c.workspaceRoot), ("keep_workspaces", .bool c.keepWorkspaces),
    ("toolchain", c.toolchain.toJson), ("limits", c.limits.toJson), ("stderr_policy", .string c.stderrPolicy.name),
    ("max_concurrent_runs", Limits.wordJson c.maxConcurrentRuns),
    ("run_dir", match c.runDir with
      | none => .null
      | some s => .string s)]

end Config
end Tabscript
