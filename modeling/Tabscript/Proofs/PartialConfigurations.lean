import Tabscript.CommandLine
import Tabscript.Config
import Tabscript.Proofs.RevisedRecords

/-! Configurations with parts left out.

What is left out of the text of a configuration takes its default: a field of the engine, of
the toolchain or of the limits, or one of these two as a whole. A limit that is lifted is
written as `null`, and so it is not mistaken for one that is left out. What the options of a
command line lay over a configuration is theirs alone. -/
namespace Tabscript.PartialConfigurations
open Json JsonTexts WrittenJson RevisedRecords
open CommandLine (Globals)

/-- A field as it was given if its member is kept, and as it was before otherwise. -/
def pick {α : Type} (keep : List String → Bool) (key : String) (given base : α) : α :=
  if keep [key] then given else base

def layToolchain (keep : List String → Bool) (given base : Toolchain) : Toolchain where
  compiler := pick keep "compiler" given.compiler base.compiler
  flags := pick keep "flags" given.flags base.flags
  linkArgs := pick keep "link_args" given.linkArgs base.linkArgs

def layLimits (keep : List String → Bool) (given base : Limits) : Limits where
  buildTimeoutSecs := pick keep "build_timeout_secs" given.buildTimeoutSecs base.buildTimeoutSecs
  runTimeoutSecs := pick keep "run_timeout_secs" given.runTimeoutSecs base.runTimeoutSecs
  memoryLimitMb := pick keep "memory_limit_mb" given.memoryLimitMb base.memoryLimitMb
  cpuTimeLimitSecs := pick keep "cpu_time_limit_secs" given.cpuTimeLimitSecs base.cpuTimeLimitSecs
  maxOutputBytes := pick keep "max_output_bytes" given.maxOutputBytes base.maxOutputBytes

/-- The fields of a configuration that are kept, laid over another one. -/
def layConfig (keep : List String → Bool) (given base : Config) : Config where
  workspaceRoot := pick keep "workspace_root" given.workspaceRoot base.workspaceRoot
  keepWorkspaces := pick keep "keep_workspaces" given.keepWorkspaces base.keepWorkspaces
  toolchain :=
    pick keep "toolchain" (layToolchain (below keep "toolchain") given.toolchain base.toolchain) base.toolchain
  limits := pick keep "limits" (layLimits (below keep "limits") given.limits base.limits) base.limits
  stderrPolicy := pick keep "stderr_policy" given.stderrPolicy base.stderrPolicy
  maxConcurrentRuns := pick keep "max_concurrent_runs" given.maxConcurrentRuns base.maxConcurrentRuns
  runDir := pick keep "run_dir" given.runDir base.runDir

section Values

private theorem texts_read (expected : String) (texts : List String) :
    (draft (.array (texts.map .string))).toList (Draft.toText expected) = .ok texts := by
  have items : Draft.mapItems (Draft.toText expected) (draftItems (texts.map .string)) = .ok texts := by
    induction texts with
    | nil => rfl
    | cons text more ih =>
      rw [List.map_cons, draftItems, draft, Draft.mapItems, Draft.toText]
      simp [ih, Except.map]
  simp only [draft, Draft.toList, items]

private theorem word_read (expected : String) (n : UInt64) : (draft (Limits.wordJson n)).toWord expected = .ok n := by
  rw [Limits.wordJson, draft_natural n.toNat_lt, Draft.toWord, UInt64.ofNat_toNat]

private theorem limit_read (expected : String) (n : Option UInt64) :
    (draft (Limits.limitJson n)).toOption (Draft.toWord expected) = .ok n := by
  cases n with
  | none => rfl
  | some n =>
    have read := word_read expected n
    rw [Limits.wordJson, draft_natural n.toNat_lt] at read
    rw [Limits.limitJson, Limits.wordJson, draft_natural n.toNat_lt, Draft.toOption, read]
    · rfl
    · simp

private theorem limit_plain (n : Option UInt64) (members : List (String × Json)) :
    Limits.limitJson n ≠ .object members := by
  cases n <;> simp [Limits.limitJson, Limits.wordJson]

private theorem policy_read (p : StderrPolicy) : StderrPolicy.ofDraft (draft (.string p.name)) = .ok p := by
  cases p with
  | fail => rfl
  | warn => rfl

/-- A folder that may be missing as JSON. -/
def folderJson : Option String → Json
  | none => .null
  | some s => .string s

private theorem folder_plain (s : Option String) (members : List (String × Json)) : folderJson s ≠ .object members := by
  cases s <;> simp [folderJson]

private theorem folder_read (s : Option String) :
    (draft (folderJson s)).toOption (Draft.toText "path string") = .ok s := by
  cases s <;> rfl

end Values

section Fields

variable {α β : Type} {r : Record α} {keep : List String → Bool} {key : String} {v : Json} {d : Draft}

/-- A member that gives a value to a field. -/
theorem lays_field (read : Draft → Except Json.Fault β) (put : β → α → α) (get : α → β) (given : β)
    (assigned : ∀ d a, r.assign key d a = (read d).map fun b => put b a) (same : ∀ a, put (get a) a = a)
    (found : ∀ d, Revised (below keep key) v d → d.skipFault = none → read d = .ok given) :
    Lays r keep (key, v) fun a => put (pick keep key given (get a)) a := by
  constructor
  · intro chosen d revised clean a
    rw [assigned, found d revised clean, pick, if_pos chosen]
    rfl
  · intro dropped a
    rw [pick, if_neg (Bool.eq_false_iff.mp dropped), same]

/-- A value that is no object is whole, and its field is read from it alone. -/
theorem lays_plain (read : Draft → Except Json.Fault β) (put : β → α → α) (get : α → β) {given : β}
    (plain : ∀ members, v ≠ .object members) (found : read (draft v) = .ok given)
    (assigned : ∀ d a, r.assign key d a = (read d).map fun b => put b a) (same : ∀ a, put (get a) a = a) :
    Lays r keep (key, v) fun a => put (pick keep key given (get a)) a := by
  apply lays_field read put get given assigned same
  intro d revised _
  cases revised with
  | whole => exact found
  | object => exact absurd rfl (plain _)

theorem toolchain_read (t : Toolchain) (revised : Revised keep t.toJson d) (clean : d.skipFault = none) :
    Toolchain.ofDraft d = .ok (layToolchain keep t .default) := by
  have compiler : Lays Toolchain.record keep ("compiler", .string t.compiler) _ :=
    lays_plain (Draft.toText "a string") (fun s a => { a with compiler := s }) Toolchain.compiler (by simp) rfl
      (fun _ _ => rfl) (fun _ => rfl)
  have flags : Lays Toolchain.record keep ("flags", .array (t.flags.map .string)) _ :=
    lays_plain (Draft.toList (Draft.toText "a string")) (fun l a => { a with flags := l }) Toolchain.flags
      (by simp) (texts_read _ _) (fun _ _ => rfl) (fun _ => rfl)
  have linkArgs : Lays Toolchain.record keep ("link_args", .array (t.linkArgs.map .string)) _ :=
    lays_plain (Draft.toList (Draft.toText "a string")) (fun l a => { a with linkArgs := l }) Toolchain.linkArgs
      (by simp) (texts_read _ _) (fun _ _ => rfl) (fun _ => rfl)
  have distinct : ["compiler", "flags", "link_args"].Nodup := by decide
  exact read_revised revised clean (fun _ => rfl) distinct (.cons compiler (.cons flags (.cons linkArgs .nil))) .default

theorem limits_read (l : Limits) (revised : Revised keep l.toJson d) (clean : d.skipFault = none) :
    Limits.ofDraft d = .ok (layLimits keep l .default) := by
  have build : Lays Limits.record keep ("build_timeout_secs", Limits.wordJson l.buildTimeoutSecs) _ :=
    lays_plain (Draft.toWord "u64") (fun n a => { a with buildTimeoutSecs := n }) Limits.buildTimeoutSecs
      (by simp [Limits.wordJson]) (word_read _ _) (fun _ _ => rfl) (fun _ => rfl)
  have run : Lays Limits.record keep ("run_timeout_secs", Limits.wordJson l.runTimeoutSecs) _ :=
    lays_plain (Draft.toWord "u64") (fun n a => { a with runTimeoutSecs := n }) Limits.runTimeoutSecs
      (by simp [Limits.wordJson]) (word_read _ _) (fun _ _ => rfl) (fun _ => rfl)
  have memory : Lays Limits.record keep ("memory_limit_mb", Limits.limitJson l.memoryLimitMb) _ :=
    lays_plain (Draft.toOption (Draft.toWord "u64")) (fun n a => { a with memoryLimitMb := n }) Limits.memoryLimitMb
      (limit_plain _) (limit_read _ _) (fun _ _ => rfl) (fun _ => rfl)
  have cpu : Lays Limits.record keep ("cpu_time_limit_secs", Limits.limitJson l.cpuTimeLimitSecs) _ :=
    lays_plain (Draft.toOption (Draft.toWord "u64")) (fun n a => { a with cpuTimeLimitSecs := n })
      Limits.cpuTimeLimitSecs (limit_plain _) (limit_read _ _) (fun _ _ => rfl) (fun _ => rfl)
  have output : Lays Limits.record keep ("max_output_bytes", Limits.wordJson l.maxOutputBytes) _ :=
    lays_plain (Draft.toWord "usize") (fun n a => { a with maxOutputBytes := n }) Limits.maxOutputBytes
      (by simp [Limits.wordJson]) (word_read _ _) (fun _ _ => rfl) (fun _ => rfl)
  have distinct : Limits.fields.Nodup := by decide
  exact read_revised revised clean (fun _ => rfl) distinct
    (.cons build (.cons run (.cons memory (.cons cpu (.cons output .nil))))) .default

theorem config_read (tempDir : String) (c : Config) (revised : Revised keep c.toJson d) (clean : d.skipFault = none) :
    Config.ofDraft tempDir d = .ok (layConfig keep c (.default tempDir)) := by
  have root : Lays Config.record keep ("workspace_root", .string c.workspaceRoot) _ :=
    lays_plain (Draft.toText "path string") (fun s a => { a with workspaceRoot := s }) Config.workspaceRoot
      (by simp) rfl (fun _ _ => rfl) (fun _ => rfl)
  have workspaces : Lays Config.record keep ("keep_workspaces", .bool c.keepWorkspaces) _ :=
    lays_plain Draft.toBool (fun b a => { a with keepWorkspaces := b }) Config.keepWorkspaces (by simp) rfl
      (fun _ _ => rfl) (fun _ => rfl)
  have toolchain : Lays Config.record keep ("toolchain", c.toolchain.toJson) _ :=
    lays_field Toolchain.ofDraft (fun t a => { a with toolchain := t }) Config.toolchain _ (fun _ _ => rfl)
      (fun _ => rfl) (fun _ => toolchain_read c.toolchain)
  have limits : Lays Config.record keep ("limits", c.limits.toJson) _ :=
    lays_field Limits.ofDraft (fun l a => { a with limits := l }) Config.limits _ (fun _ _ => rfl)
      (fun _ => rfl) (fun _ => limits_read c.limits)
  have policy : Lays Config.record keep ("stderr_policy", .string c.stderrPolicy.name) _ :=
    lays_plain StderrPolicy.ofDraft (fun p a => { a with stderrPolicy := p }) Config.stderrPolicy (by simp)
      (policy_read _) (fun _ _ => rfl) (fun _ => rfl)
  have runs : Lays Config.record keep ("max_concurrent_runs", Limits.wordJson c.maxConcurrentRuns) _ :=
    lays_plain (Draft.toWord "usize") (fun n a => { a with maxConcurrentRuns := n }) Config.maxConcurrentRuns
      (by simp [Limits.wordJson]) (word_read _ _) (fun _ _ => rfl) (fun _ => rfl)
  have folder : Lays Config.record keep ("run_dir", folderJson c.runDir) _ :=
    lays_plain (Draft.toOption (Draft.toText "path string")) (fun s a => { a with runDir := s }) Config.runDir
      (folder_plain _) (folder_read _) (fun _ _ => rfl) (fun _ => rfl)
  have distinct : Config.fields.Nodup := by decide
  exact read_revised revised clean (fun _ => rfl) distinct
    (.cons root (.cons workspaces (.cons toolchain (.cons limits (.cons policy (.cons runs (.cons folder .nil)))))))
    (.default tempDir)

end Fields

/-- What the options of a command line make of a configuration. -/
structure Overrides (g : Globals) (before after : Config) : Prop where
  workspace : ∀ folder, g.workspace = some folder → after.workspaceRoot = folder
  workspace_absent : g.workspace = none → after.workspaceRoot = before.workspaceRoot
  compiler : ∀ name, g.compiler = some name → after.toolchain.compiler = name
  compiler_absent : g.compiler = none → after.toolchain.compiler = before.toolchain.compiler
  keep : g.keepWorkspaces = true → after.keepWorkspaces = true
  keep_absent : g.keepWorkspaces = false → after.keepWorkspaces = before.keepWorkspaces
  stderr : g.allowStderr = true → after.stderrPolicy = .warn
  stderr_absent : g.allowStderr = false → after.stderrPolicy = before.stderrPolicy
  others : after = { before with
    workspaceRoot := after.workspaceRoot
    toolchain := { before.toolchain with compiler := after.toolchain.compiler }
    keepWorkspaces := after.keepWorkspaces
    stderrPolicy := after.stderrPolicy }

theorem apply_overrides (g : Globals) (c : Config) : Overrides g c (g.apply c) where
  workspace folder given := by rw [Globals.apply, given, Option.getD_some]
  workspace_absent absent := by rw [Globals.apply, absent, Option.getD_none]
  compiler name given := by rw [Globals.apply, given, Option.getD_some]
  compiler_absent absent := by rw [Globals.apply, absent, Option.getD_none]
  keep given := by rw [Globals.apply, given, Bool.true_or]
  keep_absent absent := by rw [Globals.apply, absent, Bool.false_or]
  stderr given := by rw [Globals.apply, if_pos given]
  stderr_absent absent := by rw [Globals.apply, if_neg (Bool.eq_false_iff.mp absent)]
  others := rfl

theorem apply_twice (g : Globals) (c : Config) : g.apply (g.apply c) = g.apply c := by
  have again {α : Type} (option : Option α) (a : α) : option.getD (option.getD a) = option.getD a := by
    cases option <;> rfl
  have warned : (if g.allowStderr then StderrPolicy.warn else if g.allowStderr then .warn else c.stderrPolicy) =
      if g.allowStderr then .warn else c.stderrPolicy := by
    split <;> rfl
  simp only [Globals.apply, again, warned, ← Bool.or_assoc, Bool.or_self]

theorem text_read {keep : List String → Bool} {d : Draft} {text : String} (tempDir : String) (c : Config)
    (revised : Revised keep c.toJson d) (written : IsText d text) :
    Config.ofText tempDir text = .ok (layConfig keep c (.default tempDir)) := by
  rw [Config.ofText, decode_text written]
  exact config_read tempDir c revised (writes_flawless written)

/-- A limit is as it was given exactly if both the limits and the limit are kept. -/
theorem limit_picked (limit : Limits → Option UInt64) (key : String)
    (picked : ∀ keep given base, limit (layLimits keep given base) = pick keep key (limit given) (limit base))
    (keep : List String → Bool) (tempDir : String) (c : Config) :
    limit (layConfig keep c (.default tempDir)).limits =
      if keep ["limits"] && keep ["limits", key] then limit c.limits else limit .default := by
  have inside : limit (layLimits (below keep "limits") c.limits .default) =
      if keep ["limits", key] then limit c.limits else limit .default := picked _ _ _
  simp only [layConfig, pick]
  cases keep ["limits"] with
  | true => exact inside
  | false => rfl

/-- Whatever is taken out of the text of a configuration takes its default, and nothing else
does; unknown members change nothing. So the whole text gives the configuration back, and a
limit is lifted only by a text that lifts it. Options change what they name. -/
theorem missing_parts_take_defaults (tempDir : String) (c : Config) :
    (∀ keep d text, Revised keep c.toJson d → IsText d text →
      Config.ofText tempDir text = .ok (layConfig keep c (.default tempDir))) ∧
    (∀ keep, Config.ofText tempDir (thin keep c.toJson).compact = .ok (layConfig keep c (.default tempDir)) ∧
      Config.ofText tempDir (thin keep c.toJson).indented = .ok (layConfig keep c (.default tempDir))) ∧
    Config.ofText tempDir c.toJson.compact = .ok c ∧ Config.ofText tempDir c.toJson.indented = .ok c ∧
    (∀ keep, (layConfig keep c (.default tempDir)).limits.memoryLimitMb =
        (if keep ["limits"] && keep ["limits", "memory_limit_mb"] then c.limits.memoryLimitMb else some 1024) ∧
      (layConfig keep c (.default tempDir)).limits.cpuTimeLimitSecs =
        if keep ["limits"] && keep ["limits", "cpu_time_limit_secs"] then c.limits.cpuTimeLimitSecs else some 30) ∧
    ∀ (g : Globals) (e : Config), Overrides g e (g.apply e) ∧ g.apply (g.apply e) = g.apply e := by
  have thinned (keep : List String → Bool) :
      Config.ofText tempDir (thin keep c.toJson).compact = .ok (layConfig keep c (.default tempDir)) ∧
        Config.ofText tempDir (thin keep c.toJson).indented = .ok (layConfig keep c (.default tempDir)) :=
    ⟨text_read tempDir c (thin_revised keep c.toJson) (compact_text _),
      text_read tempDir c (thin_revised keep c.toJson) (indented_text _)⟩
  have whole := thinned fun _ => true
  rw [thin_all] at whole
  exact ⟨fun keep d text => text_read tempDir c, thinned, whole.1, whole.2,
    fun keep => ⟨limit_picked Limits.memoryLimitMb "memory_limit_mb" (fun _ _ _ => rfl) keep tempDir c,
      limit_picked Limits.cpuTimeLimitSecs "cpu_time_limit_secs" (fun _ _ _ => rfl) keep tempDir c⟩,
    fun g e => ⟨apply_overrides g e, apply_twice g e⟩⟩

/-- Of the settings only a lifted limit and the folder to run in are left, with two unknown members. -/
def liftedMemory : Json :=
  .object [("colour", .array [.number (-1)]), ("limits", .object [("memory_limit_mb", .null), ("stack", .bool true)]),
    ("run_dir", .string "w")]

def liftedMemoryText : String :=
  Text.braced ("\"colour\":[-1],\"limits\":" ++ Text.braced "\"memory_limit_mb\":null,\"stack\":true" ++
    ",\"run_dir\":\"w\"")

theorem missing_parts_take_defaults_lifted_memory :
    IsText (draft liftedMemory) liftedMemoryText ∧
    Config.ofText "/tmp" liftedMemoryText =
      .ok { Config.default "/tmp" with
        limits := { Limits.default with memoryLimitMb := none }
        runDir := some "w" } := by
  have written : IsText (draft liftedMemory) liftedMemoryText := compact_text liftedMemory
  let keep (path : List String) : Bool := path = ["limits"] ∨ path = ["limits", "memory_limit_mb"] ∨ path = ["run_dir"]
  let c : Config := ⟨"root", true, ⟨"cc", [], []⟩, ⟨1, 2, none, none, 3⟩, .warn, 5, some "w"⟩
  have limits : Revised (below keep "limits") c.limits.toJson
      (draft (.object [("memory_limit_mb", .null), ("stack", .bool true)])) :=
    .object (.removed rfl (.removed rfl (.kept rfl (.whole (by simp [Limits.limitJson]))
      (.added (by decide) (.removed rfl (.removed rfl .nil))))))
  have revised : Revised keep c.toJson (draft liftedMemory) :=
    .object (.added (by decide) (.removed rfl (.removed rfl (.removed rfl (.kept rfl limits (.removed rfl (.removed rfl
      (.kept rfl (.whole (by simp)) .nil))))))))
  exact ⟨written, (missing_parts_take_defaults "/tmp" c).1 keep _ _ revised written⟩

end Tabscript.PartialConfigurations
