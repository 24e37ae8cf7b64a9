import Tabscript.Proofs.RequestStages
import Tabscript.Proofs.WorkspaceFolders

/-! What one request does to the files.

After its workspace is opened a request stays inside that folder, whichever way it
ends. Where the file operations succeed, the tree is known exactly: the source was
written, the binary is there if the compiler left one, and closing takes all of it
away unless it is to be kept. -/
namespace Tabscript.RequestFiles
open FileTree TreeLookups PathNames FolderPaths FolderMaking FolderLocality WorkspaceFolders HostTranscript
  RequestStages

/-- A request with what its processes do: how each call ends, and the content it leaves
where it is told to put the binary. -/
structure Request where
  id : String
  script : String
  ends : Invocation → Launch
  leaves : Invocation → Option (List UInt8)

/-- Where a compiler is told to put the binary. -/
def outputPath (config : Config) (call : Invocation) : Option String :=
  call.args[config.toolchain.flags.length + 2]?

namespace Request

/-- Processes write nothing but the binary. -/
def launch (config : Config) (cwd : Location) (r : Request) (call : Invocation) : StateM FileTree Launch := fun t =>
  match r.leaves call, outputPath config call with
  | some bytes, some path => (r.ends call, (t.writeFile cwd path bytes).2)
  | _, _ => (r.ends call, t)

def host (config : Config) (cwd : Location) (input : List UInt8) (r : Request) :
    (effect : Effect) → StateM FileTree effect.Reply :=
  answer cwd input (r.launch config cwd)

/-- Handles the request; gives its report and the files afterwards. -/
def serve (config : Config) (cwd : Location) (input : List UInt8) (r : Request) (t : FileTree) : Report × FileTree :=
  (Pipeline.run config r.id r.script).run (r.host config cwd input) t

end Request

/-- Whether a file operation has succeeded; a process may end as it will. -/
def succeeded : Event → Bool
  | ⟨.makeFolders _, reply⟩ => (reply : Except IoFault Unit).isOk
  | ⟨.resolve _, reply⟩ => (reply : Except IoFault String).isOk
  | ⟨.writeFile _ _, reply⟩ => (reply : Except IoFault Unit).isOk
  | _ => true

/-- Every file operation of a plan succeeds. -/
def Smooth {α : Type} (host : (effect : Effect) → StateM FileTree effect.Reply) (plan : Plan α) (t : FileTree) : Prop :=
  (transcript host plan t).all succeeded = true

instance {α : Type} (host : (effect : Effect) → StateM FileTree effect.Reply) (plan : Plan α) (t : FileTree) :
    Decidable (Smooth host plan t) :=
  inferInstanceAs (Decidable (_ = true))

variable {α β : Type} {config : Config} {cwd : Location} {input : List UInt8} {r : Request} {t s : FileTree}
  {host : (effect : Effect) → StateM FileTree effect.Reply} {dir source : String} {keep : Bool}

section Smoothness

theorem smooth_bind {plan : Plan α} {next : α → Plan β} (smooth : Smooth host (plan >>= next) t) :
    Smooth host plan t ∧ Smooth host (next (plan.run host t).1) (plan.run host t).2 := by
  rw [Smooth, transcript_bind, List.all_append, Bool.and_eq_true] at smooth
  exact smooth

theorem smooth_create {root id : String} (smooth : Smooth host (Workspace.create root id keep) t) :
    ∃ ws, ((Workspace.create root id keep).run host t).1 = .ok ws := by
  obtain ⟨made, rest, events, run⟩ := transcript_runs host (Workspace.create root id keep) t
  rw [Smooth, events, List.all_cons, Bool.and_eq_true] at smooth
  cases made with
  | error e => cases smooth.1
  | ok _ =>
    obtain ⟨resolved, rest, rfl, last⟩ := run
    rw [List.all_cons, Bool.and_eq_true] at smooth
    cases resolved with
    | error e => cases smooth.2.1
    | ok path =>
      obtain ⟨_, answered⟩ := last
      exact ⟨_, answered⟩

theorem smooth_write {ws : Workspace} (smooth : Smooth host (ws.writeSource source) t) :
    ∃ path, ((ws.writeSource source).run host t).1 = .ok path := by
  obtain ⟨written, rest, events, run⟩ := transcript_runs host (ws.writeSource source) t
  rw [Smooth, events, List.all_cons, Bool.and_eq_true] at smooth
  cases written with
  | error e => cases smooth.1
  | ok _ =>
    obtain ⟨_, answered⟩ := run
    exact ⟨_, answered⟩

end Smoothness

section Stages

@[simp] theorem build_output (config : Config) (source binary : String) :
    outputPath config (Build.invocation config source binary) = some binary := by
  simp [outputPath, Build.invocation]

@[simp] theorem program_output (config : Config) (binary : String) :
    outputPath config (Execution.invocation config binary) = none := rfl

/-- Building, running and closing, once the workspace is open. -/
def complete (config : Config) (ws : Workspace) (source : String) (course : Course) :
    Plan (Course × Except Fault RunOutput) := do
  match ← Build.compile config ws source with
  | .error fault =>
    ws.close
    return (course, .error fault)
  | .ok binary =>
    let result ← Execution.run config binary
    ws.close
    return (course.enter .executing, result)

theorem drive_rejected (config : Config) (id : String) {script : String} {fault : Fault}
    (rejected : Script.translate script = .error fault) (course : Course) :
    ∃ after, Pipeline.drive config id script course = .done (after, .error fault) := by
  rw [Script.translate] at rejected
  rw [Pipeline.drive]
  cases parsed : Script.parse (Script.commands script) with
  | error first =>
    rw [parsed] at rejected
    cases rejected
    exact ⟨_, rfl⟩
  | ok calls =>
    rw [parsed] at rejected
    dsimp only at rejected ⊢
    rw [rejected]
    exact ⟨_, rfl⟩

theorem drive_translated (config : Config) (id : String) {script : String} {statements : List Statement}
    (translated : Script.translate script = .ok statements) (course : Course) :
    ∃ after, Pipeline.drive config id script course =
      Workspace.create config.workspaceRoot id config.keepWorkspaces >>= fun
        | .error fault => .done (after, .error fault)
        | .ok ws => complete config ws (Program.assemble statements).source after := by
  rw [Script.translate] at translated
  rw [Pipeline.drive]
  cases parsed : Script.parse (Script.commands script) with
  | error first =>
    rw [parsed] at translated
    cases translated
  | ok calls =>
    rw [parsed] at translated
    dsimp only at translated ⊢
    rw [translated]
    exact ⟨(((course.enter .parsing).enter .validating).enter .assembling).enter .building, rfl⟩

end Stages

@[simp] theorem launch_program (binary : String) (t : FileTree) :
    r.launch config cwd (Execution.invocation config binary) t = (r.ends (Execution.invocation config binary), t) := by
  rw [Request.launch, program_output]
  cases r.leaves (Execution.invocation config binary) <;> rfl

private theorem launch_compiler (source binary : String) (t : FileTree) :
    r.launch config cwd (Build.invocation config source binary) t =
      (r.ends (Build.invocation config source binary),
        match r.leaves (Build.invocation config source binary) with
        | none => t
        | some bytes => (t.writeFile cwd binary bytes).2) := by
  rw [Request.launch, build_output]
  cases r.leaves (Build.invocation config source binary) <;> rfl

private theorem binary_component : IsComponent "main" := by decide

section Locality

variable {l : Location}

private theorem execute_local (binary : String) :
    Local l ((Execution.run config binary).run (r.host config cwd input)) := by
  have started : Local l ((Plan.launch (Execution.invocation config binary)).run (r.host config cwd input)) := by
    have still : (Plan.launch (Execution.invocation config binary)).run (r.host config cwd input) =
        fun t => (r.ends (Execution.invocation config binary), t) := funext (launch_program binary)
    rw [still]
    exact local_pure _
  rw [Execution.run]
  refine local_bind started fun reply => ?_
  cases reply <;> exact local_done _

variable (components : ∀ name ∈ l, IsComponent name)

include components

private theorem launch_local (source : String) :
    Local l (r.launch config cwd (Build.invocation config source (Path.join (absolute l) "main"))) := by
  have writes : r.launch config cwd (Build.invocation config source (Path.join (absolute l) "main")) = fun t => _ :=
    funext (launch_compiler source _)
  rw [writes]
  cases r.leaves (Build.invocation config source (Path.join (absolute l) "main")) with
  | none => exact local_pure _
  | some bytes =>
    have inside := write_local components binary_component cwd bytes
    exact ⟨inside.sound, inside.frame, fun t s alike => ⟨rfl, (inside.alike t s alike).2⟩⟩

end Locality

section Workspaces

variable {root id : String} (names : ∀ name ∈ start cwd root, IsComponent name) (component : IsComponent id)

include names component

theorem compile_local (source : String) :
    Local (place cwd root id)
      ((Build.compile config ⟨absolute (place cwd root id), keep⟩ source).run (r.host config cwd input)) := by
  have components := place_components names component
  have written := write_source_local input (r.launch config cwd) names component keep source
  rw [Build.compile, Workspace.binaryPath]
  refine local_bind written fun answered => ?_
  cases answered with
  | error fault => exact local_done _
  | ok path =>
    have started : Local (place cwd root id)
        ((Plan.launch (Build.invocation config path (Path.join (absolute (place cwd root id)) "main"))).run
          (r.host config cwd input)) := by
      rw [Request.host, run_launch]
      exact launch_local components path
    refine local_bind started fun reply => ?_
    cases reply with
    | refused e => exact local_done _
    | overran => exact local_done _
    | ended stdout stderr status =>
      dsimp only
      split
      · exact local_done _
      · have looked : Local (place cwd root id)
            ((Plan.isPresent (Path.join (absolute (place cwd root id)) "main")).run (r.host config cwd input)) := by
          rw [Request.host, run_present]
          exact present_local components binary_component cwd
        refine local_bind looked fun present => ?_
        cases present <;> exact local_done _

variable (config input r) in
/-- Whichever way it ends, a request stays inside its workspace once that is open. -/
theorem complete_local (keep : Bool) (source : String) (course : Course) :
    Local (place cwd root id)
      ((complete config ⟨absolute (place cwd root id), keep⟩ source course).run (r.host config cwd input)) := by
  have closing := close_local input (r.launch config cwd) names component keep
  rw [complete]
  refine local_bind (compile_local names component source) fun built => ?_
  cases built with
  | error fault => exact local_bind closing fun _ => local_done _
  | ok binary => exact local_bind (execute_local binary) fun result => local_bind closing fun _ => local_done _

end Workspaces

section Trees

variable {l : Location}

def staged (l : Location) (source : String) (t : FileTree) : FileTree :=
  t.put (l ++ ["main.cpp"]) (.file (Text.encode source))

/-- The tree with a built program in the folder at a location. -/
def filled (config : Config) (r : Request) (l : Location) (source : String) (t : FileTree) : FileTree :=
  match r.leaves (compilerCall config (absolute l)) with
  | none => staged l source t
  | some bytes => (staged l source t).put (l ++ ["main"]) (.file bytes)

/-- What is found in a workspace that was kept. -/
def kept (config : Config) (r : Request) (l : Location) (source : String) (k : Location) : Option Node :=
  if k = [] then some .folder
  else if k = ["main.cpp"] then some (.file (Text.encode source))
  else if k = ["main"] then (r.leaves (compilerCall config (absolute l))).map .file
  else none

theorem filled_inside (here : t.get? l = some .folder) (bare : ∀ k, k ≠ [] → t.get? (l ++ k) = none)
    (k : Location) : (filled config r l source t).get? (l ++ k) = kept config r l source k := by
  have was : t.get? (l ++ k) = if k = [] then some .folder else none := by
    by_cases top : k = []
    · rw [top, List.append_nil, if_pos rfl, here]
    · rw [if_neg top, bare k top]
  have first : (staged l source t).get? (l ++ k) =
      if k = ["main.cpp"] then some (.file (Text.encode source)) else if k = [] then some .folder else none := by
    simp [staged, was]
  rw [filled, kept]
  cases r.leaves (compilerCall config (absolute l)) with
  | none =>
    by_cases top : k = []
    · subst top
      simpa using first
    · simp [top, first]
  | some bytes =>
    by_cases top : k = []
    · subst top
      simpa using first
    · by_cases binary : k = ["main"]
      · simp [binary]
      · simp [top, binary, first]

theorem filled_elsewhere {k : Location} (other : ∀ file, k ≠ l ++ [file]) :
    (filled config r l source t).get? k = t.get? k := by
  have first : (staged l source t).get? k = t.get? k := by simp [staged, other]
  rw [filled]
  cases r.leaves (compilerCall config (absolute l)) with
  | none => exact first
  | some bytes => simp [other, first]

private theorem above_entry {m : Location} (above : m <+: l) (file : String) : m ≠ l ++ [file] := by
  rintro rfl
  have long := above.length_le
  rw [List.length_append, List.length_singleton] at long
  omega

theorem outside_entry {k : Location} (outside : ¬ l <+: k) (file : String) : k ≠ l ++ [file] := by
  rintro rfl
  exact outside (List.prefix_append _ _)

theorem execute_tree (binary : String) : ((Execution.run config binary).run (r.host config cwd input) t).2 = t := by
  have still : (Plan.launch (Execution.invocation config binary)).run (r.host config cwd input) t =
      (r.ends (Execution.invocation config binary), t) := launch_program binary t
  simp only [Execution.run, run_bind, still]
  cases r.ends (Execution.invocation config binary) <;> simp

private theorem binary_free (dir : String) (free : pathFault (Path.join dir "main.cpp") = none) :
    pathFault (Path.join dir "main") = none := by
  have longer : Path.join dir "main.cpp" = Path.join dir "main" ++ ".cpp" := by
    have spelled : "main.cpp" = "main" ++ ".cpp" := by decide
    rw [Path.join, Path.join, component_relative source_component, component_relative binary_component, spelled]
    cases dir.isEmpty || Path.endsInSlash dir
    · simp only [String.append_assoc, Bool.false_eq_true, if_false]
    · simp only [String.append_assoc, Bool.false_eq_true, if_false, if_true]
  rw [longer] at free
  exact fault_front free

variable (components : ∀ name ∈ l, IsComponent name)

include components

theorem write_source_tree {path : String}
    (written : ((Workspace.writeSource ⟨absolute l, keep⟩ source).run (r.host config cwd input) t).1 = .ok path) :
    pathFault (Path.join (absolute l) "main.cpp") = none ∧ t.followFolder [] l = .ok l ∧
      (Workspace.writeSource ⟨absolute l, keep⟩ source).run (r.host config cwd input) t =
        (.ok (sourceIn (absolute l)), staged l source t) := by
  rw [Workspace.writeSource, Workspace.sourcePath, run_bind, Request.host, run_write] at written ⊢
  rcases write_cases components source_component cwd t (Text.encode source) with
    ⟨e, failed⟩ | ⟨free, led, _, wrote⟩
  · dsimp only at written
    rw [failed] at written
    cases written
  · refine ⟨free, led, ?_⟩
    dsimp only
    rw [wrote]
    rfl

theorem launch_tree (free : pathFault (Path.join (absolute l) "main.cpp") = none)
    (led : t.followFolder [] l = .ok l) (room : t.get? (l ++ ["main"]) ≠ some .folder) :
    r.launch config cwd (compilerCall config (absolute l)) (staged l source t) =
      (r.ends (compilerCall config (absolute l)), filled config r l source t) := by
  have there : (staged l source t).followFolder [] l = .ok l := by
    rw [← led]
    apply folder_congr components
    intro m above
    simp [staged, above_entry above]
  have vacant : (staged l source t).get? (l ++ ["main"]) ≠ some .folder := by
    simpa [staged] using room
  have fits : tooLong "main" = false := by decide
  rw [compilerCall, launch_compiler, filled, compilerCall]
  cases r.leaves (Build.invocation config (sourceIn (absolute l)) (binaryIn (absolute l))) with
  | none => rfl
  | some bytes =>
    have wrote : (staged l source t).writeFile cwd (Path.join (absolute l) "main") bytes =
        (.ok (), (staged l source t).put (l ++ ["main"]) (.file bytes)) := by
      rw [write_inside components binary_component, binary_free _ free, there]
      simp [fits, vacant]
    dsimp only
    rw [binaryIn, wrote]

theorem compile_tree {path : String} (room : t.get? (l ++ ["main"]) ≠ some .folder)
    (written : ((Workspace.writeSource ⟨absolute l, keep⟩ source).run (r.host config cwd input) t).1 = .ok path) :
    ((Build.compile config ⟨absolute l, keep⟩ source).run (r.host config cwd input) t).2 =
      filled config r l source t := by
  obtain ⟨free, led, wrote⟩ := write_source_tree components written
  have started : (Plan.launch (Build.invocation config (sourceIn (absolute l)) (binaryIn (absolute l)))).run
      (r.host config cwd input) (staged l source t) =
        (r.ends (compilerCall config (absolute l)), filled config r l source t) :=
    launch_tree components free led room
  rw [Build.compile, run_bind, wrote]
  dsimp only [Workspace.binaryPath]
  rw [binaryIn] at started
  rw [run_bind, started]
  cases r.ends (compilerCall config (absolute l)) with
  | refused e => rfl
  | overran => rfl
  | ended stdout stderr status =>
    dsimp only
    split
    · rfl
    · rw [run_bind]
      split <;> rfl

end Trees

section Closing

variable {root id : String} (names : ∀ name ∈ start cwd root, IsComponent name) (component : IsComponent id)

include names component

variable (config input r) in
theorem close_tree (keep : Bool) (free : pathFault (absolute (place cwd root id)) = none)
    (led : t.followFolder [] (place cwd root id) = .ok (place cwd root id))
    (here : t.get? (place cwd root id) = some .folder) :
    ((Workspace.close ⟨absolute (place cwd root id), keep⟩).run (r.host config cwd input) t).2 =
      if keep then t else t.prune (place cwd root id) := by
  cases keep with
  | true => rfl
  | false =>
    have found : t.follow [] (place cwd root id) = .ok (place cwd root id) := by
      have through := follow_through led []
      rwa [List.append_nil] at through
    have folder : t.isFolder (place cwd root id) = true := by
      rw [isFolder, here]
      rfl
    have removed := remove_inside (root_components names) component cwd t
    rw [← place, free, found] at removed
    dsimp only at removed
    rw [if_pos folder] at removed
    rw [Workspace.close, if_neg Bool.false_ne_true, if_neg Bool.false_ne_true, Request.host, run_remove]
    dsimp only
    exact removed

/-- The tree after a request whose program could be written. -/
theorem complete_tree {path : String} (course : Course)
    (room : t.get? (place cwd root id ++ ["main"]) ≠ some .folder)
    (here : t.get? (place cwd root id) = some .folder)
    (written : ((Workspace.writeSource ⟨absolute (place cwd root id), keep⟩ source).run
      (r.host config cwd input) t).1 = .ok path) :
    ((complete config ⟨absolute (place cwd root id), keep⟩ source course).run (r.host config cwd input) t).2 =
      if keep then filled config r (place cwd root id) source t
      else (filled config r (place cwd root id) source t).prune (place cwd root id) := by
  have components := place_components names component
  obtain ⟨free, led, _⟩ := write_source_tree components written
  have folder_free : pathFault (absolute (place cwd root id)) = none := by
    obtain ⟨back, spelled⟩ := join_front (absolute (place cwd root id)) source_component
    rw [spelled] at free
    exact fault_front free
  have same : ∀ m, m <+: place cwd root id →
      (filled config r (place cwd root id) source t).get? m = t.get? m :=
    fun m above => filled_elsewhere (above_entry above)
  have closed := close_tree config input r names component keep folder_free
    ((folder_congr components same).trans led) ((same _ List.prefix_rfl).trans here)
  rw [complete, run_bind, compile_tree components room written]
  generalize ((Build.compile config ⟨absolute (place cwd root id), keep⟩ source).run (r.host config cwd input) t).1 =
    result
  cases result with
  | error fault =>
    dsimp only
    rw [run_bind]
    exact closed
  | ok binary =>
    dsimp only
    rw [run_bind, execute_tree, run_bind]
    exact closed

end Closing

end Tabscript.RequestFiles
