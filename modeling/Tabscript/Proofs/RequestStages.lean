import Tabscript.Pipeline
import Tabscript.Proofs.CapturedStreams
import Tabscript.Proofs.HostTranscript

/-! The stages of a request that need a host: opening the workspace, building,
running and closing.

The conditions below speak about the transcript alone: which effects were asked
for and what the host replied. Each stage is then described once, by what it
asks for when it goes well and by the fault it reports when it does not. Nothing
limits what a compiler or a program may do, or in how many pieces its streams
arrive. -/
namespace Tabscript.RequestStages
open HostTranscript

/-- The folder of a request, as it is asked for. -/
def folder (config : Config) (id : String) : String :=
  Path.join config.workspaceRoot id

def sourceIn (dir : String) : String := Path.join dir "main.cpp"

def binaryIn (dir : String) : String := Path.join dir "main"

def compilerCall (config : Config) (dir : String) : Invocation :=
  Build.invocation config (sourceIn dir) (binaryIn dir)

def programCall (config : Config) (dir : String) : Invocation :=
  Execution.invocation config (binaryIn dir)

/-- The part of a stream that the configuration lets through, as a text. -/
def captured (config : Config) (stream : List (List UInt8)) : String :=
  Capture.text config.limits.maxOutputBytes.toNat stream

/-- Every line of the script was validated, the folder was made, and the whole
program was written into it. -/
structure Staged (config : Config) (id script dir : String) (events : List Event) : Prop where
  made : ⟨.makeFolders (folder config id), .ok ()⟩ ∈ events
  resolved : ⟨.resolve (folder config id), .ok dir⟩ ∈ events
  written : ∃ statements, Script.translate script = .ok statements ∧
    ⟨.writeFile (sourceIn dir) (Text.encode (Program.assemble statements).source), .ok ()⟩ ∈ events

/-- The compiler was started on a staged program, ended well and in time without
a byte of diagnostics, and left a binary. -/
structure Built (config : Config) (id script dir : String) (events : List Event) : Prop where
  staged : Staged config id script dir events
  compiled : ∃ stdout stderr status,
    ⟨.launch (compilerCall config dir), .ended stdout stderr status⟩ ∈ events ∧
      status.code = some 0 ∧ stderr.flatten = []
  present : ⟨.isPresent (binaryIn dir), true⟩ ∈ events

/-- What the policy lets pass of a program that ended in time. -/
def Tolerated (config : Config) (stderr : List (List UInt8)) (status : ExitStatus) : Prop :=
  status.code = some 0 ∧ (stderr.flatten = [] ∨ config.stderrPolicy = .warn)

/-- The built program was started, met its deadline with these streams, ended
well, and its diagnostics are tolerated. -/
def Ran (config : Config) (dir : String) (stdout stderr : List (List UInt8)) (events : List Event) : Prop :=
  ∃ status, ⟨.launch (programCall config dir), .ended stdout stderr status⟩ ∈ events ∧
    Tolerated config stderr status

/-- The diagnostics that are handed on as warnings. -/
def warningsOf (config : Config) (stderr : List (List UInt8)) : Option String :=
  if config.stderrPolicy = .warn ∧ stderr.flatten ≠ [] then some (captured config stderr) else none

/-- The fault that each way to fail has to be reported as. -/
inductive Blames (config : Config) (id script : String) (events : List Event) : Fault → Prop where
  | script {fault : Fault} (rejected : Script.translate script = .error fault) :
    Blames config id script events fault
  | folder {e : IoFault} (seen : ⟨.makeFolders (folder config id), .error e⟩ ∈ events) :
    Blames config id script events (.workspace ("creating " ++ folder config id) e.message)
  | path {e : IoFault} (seen : ⟨.resolve (folder config id), .error e⟩ ∈ events) :
    Blames config id script events (.workspace ("resolving " ++ folder config id) e.message)
  | source {e : IoFault} {dir : String} {bytes : List UInt8}
    (seen : ⟨.writeFile (sourceIn dir) bytes, .error e⟩ ∈ events) :
    Blames config id script events (.workspace ("writing " ++ sourceIn dir) e.message)
  | compilerRefused {e : IoFault} {dir : String}
    (seen : ⟨.launch (compilerCall config dir), .refused e⟩ ∈ events) :
    Blames config id script events
      (.compilation ("failed to run " ++ config.toolchain.compiler ++ ": " ++ e.message))
  | compilerOverran {dir : String} (seen : ⟨.launch (compilerCall config dir), .overran⟩ ∈ events) :
    Blames config id script events (.timeout .building config.limits.buildTimeout)
  | compilerSpoke {dir : String} {stdout stderr : List (List UInt8)} {status : ExitStatus}
    (seen : ⟨.launch (compilerCall config dir), .ended stdout stderr status⟩ ∈ events)
    (spoke : stderr.flatten ≠ []) :
    Blames config id script events (.compilation (captured config stderr))
  | compilerFailed {dir : String} {stdout stderr : List (List UInt8)} {status : ExitStatus}
    (seen : ⟨.launch (compilerCall config dir), .ended stdout stderr status⟩ ∈ events)
    (silent : stderr.flatten = []) (failed : status.code ≠ some 0) :
    Blames config id script events (.compilation
      (if stdout.flatten = [] then Build.silentEnd status else captured config stdout))
  | binary {dir : String} {stdout stderr : List (List UInt8)} {status : ExitStatus}
    (compiled : ⟨.launch (compilerCall config dir), .ended stdout stderr status⟩ ∈ events)
    (ended : status.code = some 0) (silent : stderr.flatten = [])
    (seen : ⟨.isPresent (binaryIn dir), false⟩ ∈ events) :
    Blames config id script events (.compilation ("compiler produced no binary at " ++ binaryIn dir))
  | programRefused {e : IoFault} {dir : String}
    (seen : ⟨.launch (programCall config dir), .refused e⟩ ∈ events) :
    Blames config id script events
      (.execution ⟨none, none⟩ ("failed to start " ++ binaryIn dir ++ ": " ++ e.message))
  | programOverran {dir : String} (seen : ⟨.launch (programCall config dir), .overran⟩ ∈ events) :
    Blames config id script events (.timeout .executing config.limits.runTimeout)
  | programFailed {dir : String} {stdout stderr : List (List UInt8)} {status : ExitStatus}
    (seen : ⟨.launch (programCall config dir), .ended stdout stderr status⟩ ∈ events)
    (failed : status.code ≠ some 0) :
    Blames config id script events (.execution status (captured config stderr))
  | programSpoke {dir : String} {stdout stderr : List (List UInt8)} {status : ExitStatus}
    (seen : ⟨.launch (programCall config dir), .ended stdout stderr status⟩ ∈ events)
    (ended : status.code = some 0) (spoke : stderr.flatten ≠ []) (strict : config.stderrPolicy = .fail) :
    Blames config id script events (.runtimeDiagnostic (captured config stderr))

section

variable {config : Config} {id script dir : String} {events : List Event}

theorem compiler_call_ne_program_call (dir other : String) :
    compilerCall config dir ≠ programCall config other := by
  intro same
  have args : (compilerCall config dir).args = [] := by
    rw [same]
    rfl
  simp [compilerCall, Build.invocation] at args

theorem captured_empty_iff (stream : List (List UInt8)) :
    captured config stream = "" ↔ stream.flatten = [] :=
  CapturedStreams.text_empty_iff _ stream

theorem staged_mono {more : List Event} (sub : events ⊆ more)
    (staged : Staged config id script dir events) : Staged config id script dir more := by
  obtain ⟨statements, translated, written⟩ := staged.written
  exact ⟨sub staged.made, sub staged.resolved, statements, translated, sub written⟩

/-- A fault that part of a transcript explains is explained by the whole. -/
theorem blames_mono {more : List Event} {fault : Fault} (sub : events ⊆ more)
    (blamed : Blames config id script events fault) : Blames config id script more fault := by
  cases blamed with
  | script rejected => exact .script rejected
  | folder seen => exact .folder (sub seen)
  | path seen => exact .path (sub seen)
  | source seen => exact .source (sub seen)
  | compilerRefused seen => exact .compilerRefused (sub seen)
  | compilerOverran seen => exact .compilerOverran (sub seen)
  | compilerSpoke seen spoke => exact .compilerSpoke (sub seen) spoke
  | compilerFailed seen silent failed => exact .compilerFailed (sub seen) silent failed
  | binary compiled ended silent seen => exact .binary (sub compiled) ended silent (sub seen)
  | programRefused seen => exact .programRefused (sub seen)
  | programOverran seen => exact .programOverran (sub seen)
  | programFailed seen failed => exact .programFailed (sub seen) failed
  | programSpoke seen ended spoke strict => exact .programSpoke (sub seen) ended spoke strict

/-- The events of a workspace that was opened at a path. -/
def opening (config : Config) (id dir : String) : List Event :=
  [⟨.makeFolders (folder config id), .ok ()⟩, ⟨.resolve (folder config id), .ok dir⟩]

theorem create_runs (script : String) {result : Except Fault Workspace}
    (run : Runs (Workspace.create config.workspaceRoot id config.keepWorkspaces) events result) :
    (∃ dir, events = opening config id dir ∧ result = .ok ⟨dir, config.keepWorkspaces⟩) ∨
      (launches events = [] ∧
        ∃ fault, result = .error fault ∧ Blames config id script events fault) := by
  obtain ⟨made, rest, rfl, run⟩ := run
  cases made with
  | error e =>
    obtain ⟨rfl, rfl⟩ := run
    exact .inr ⟨rfl, _, rfl, .folder (.head _)⟩
  | ok _ =>
    obtain ⟨resolved, rest, rfl, run⟩ := run
    cases resolved with
    | error e =>
      obtain ⟨rfl, rfl⟩ := run
      exact .inr ⟨rfl, _, rfl, .path (.tail _ (.head _))⟩
    | ok path =>
      obtain ⟨rfl, rfl⟩ := run
      exact .inl ⟨path, rfl, rfl⟩

/-- The event of a source text that was put into its folder. -/
def writing (dir source : String) : Event :=
  ⟨.writeFile (sourceIn dir) (Text.encode source), .ok ()⟩

/-- A finished execution with the streams as far as they are captured. -/
def finished (config : Config) (stdout stderr : List (List UInt8)) (status : ExitStatus) : Execution :=
  Execution.ofStreams config.limits.maxOutputBytes.toNat stdout stderr status

private theorem success_iff (config : Config) (stdout stderr : List (List UInt8)) (status : ExitStatus) :
    (finished config stdout stderr status).success = true ↔ status.code = some 0 :=
  beq_iff_eq

private theorem stdout_empty_iff (config : Config) (stdout stderr : List (List UInt8)) (status : ExitStatus) :
    (finished config stdout stderr status).stdout.isEmpty = true ↔ stdout.flatten = [] :=
  String.isEmpty_iff.trans (captured_empty_iff stdout)

private theorem stderr_empty_iff (config : Config) (stdout stderr : List (List UInt8)) (status : ExitStatus) :
    (finished config stdout stderr status).stderr.isEmpty = true ↔ stderr.flatten = [] :=
  String.isEmpty_iff.trans (captured_empty_iff stderr)

/-- A finished compiler passes the check, or the fault that the check gives is
the one its end has to be reported as. -/
private theorem check_finished {stdout stderr : List (List UInt8)} {status : ExitStatus}
    (seen : ⟨.launch (compilerCall config dir), .ended stdout stderr status⟩ ∈ events) :
    (status.code = some 0 ∧ stderr.flatten = [] ∧
        Build.check (finished config stdout stderr status) = .ok ()) ∨
      ∃ fault, Blames config id script events fault ∧
        Build.check (finished config stdout stderr status) = .error fault := by
  have passed := success_iff config stdout stderr status
  have silent := stderr_empty_iff config stdout stderr status
  have unspoken := stdout_empty_iff config stdout stderr status
  by_cases spoke : stderr.flatten = []
  · by_cases ended : status.code = some 0
    · left
      refine ⟨ended, spoke, ?_⟩
      simp [Build.check, passed.mpr ended, silent.mpr spoke]
    · right
      have failed : (finished config stdout stderr status).success = false :=
        Bool.eq_false_iff.mpr (mt passed.mp ended)
      refine ⟨_, .compilerFailed seen spoke ended, ?_⟩
      by_cases empty : stdout.flatten = []
      · simp only [Build.check, failed, silent.mpr spoke, unspoken.mpr empty, empty]
        rfl
      · have written := Bool.eq_false_iff.mpr (mt unspoken.mp empty)
        simp only [Build.check, failed, silent.mpr spoke, written, empty]
        rfl
  · right
    have written := Bool.eq_false_iff.mpr (mt silent.mp spoke)
    refine ⟨_, .compilerSpoke seen spoke, ?_⟩
    simp only [Build.check, written, Bool.and_false]
    rfl

/-- The events of a compiler that ended and left its binary. -/
def building (config : Config) (dir : String) (stdout stderr : List (List UInt8))
    (status : ExitStatus) : List Event :=
  [⟨.launch (compilerCall config dir), .ended stdout stderr status⟩, ⟨.isPresent (binaryIn dir), true⟩]

theorem write_runs (config : Config) (id script : String) {source : String} {keep : Bool} {result : Except Fault String}
    (run : Runs (Workspace.writeSource ⟨dir, keep⟩ source) events result) :
    (events = [writing dir source] ∧ result = .ok (sourceIn dir)) ∨
      (launches events = [] ∧
        ∃ fault, result = .error fault ∧ Blames config id script events fault) := by
  obtain ⟨written, rest, rfl, run⟩ := run
  cases written with
  | error e =>
    obtain ⟨rfl, rfl⟩ := run
    exact .inr ⟨rfl, _, rfl, .source (.head _)⟩
  | ok _ =>
    obtain ⟨rfl, rfl⟩ := run
    exact .inl ⟨rfl, rfl⟩

theorem compile_runs (id script : String) {source : String} {keep : Bool} {result : Except Fault String}
    (run : Runs (Build.compile config ⟨dir, keep⟩ source) events result) :
    (∃ stdout stderr status, events = writing dir source :: building config dir stdout stderr status ∧
        status.code = some 0 ∧ stderr.flatten = [] ∧ result = .ok (binaryIn dir)) ∨
      ∃ fault, result = .error fault ∧ Blames config id script events fault ∧
        (launches events = [] ∨ ∃ reply later, launches later = [] ∧
          events = writing dir source :: ⟨.launch (compilerCall config dir), reply⟩ :: later) := by
  rw [Build.compile] at run
  obtain ⟨first, path, rest, rfl, wrote, more⟩ := runs_bind.mp run
  obtain ⟨rfl, rfl⟩ | ⟨quiet, fault, rfl, blamed⟩ := write_runs config id script wrote
  · obtain ⟨reply, rest, rfl, ran⟩ := more
    have seen : ⟨.launch (compilerCall config dir), reply⟩ ∈
        writing dir source :: ⟨.launch (compilerCall config dir), reply⟩ :: rest := .tail _ (.head _)
    cases reply with
    | refused e =>
      obtain ⟨rfl, rfl⟩ := ran
      exact .inr ⟨_, rfl, .compilerRefused seen, .inr ⟨_, [], rfl, rfl⟩⟩
    | overran =>
      obtain ⟨rfl, rfl⟩ := ran
      exact .inr ⟨_, rfl, .compilerOverran seen, .inr ⟨_, [], rfl, rfl⟩⟩
    | ended stdout stderr status =>
      dsimp only [Plan.bind] at ran
      obtain ⟨ended, silent, passed⟩ | ⟨fault, blamed, failed⟩ := check_finished seen
      · rw [finished] at passed
        rw [passed] at ran
        obtain ⟨present, rest, rfl, last⟩ := ran
        cases present with
        | false =>
          obtain ⟨rfl, rfl⟩ := last
          exact .inr ⟨_, rfl, .binary seen ended silent (.tail _ (.tail _ (.head _))), .inr ⟨_, _, rfl, rfl⟩⟩
        | true =>
          obtain ⟨rfl, rfl⟩ := last
          exact .inl ⟨stdout, stderr, status, rfl, ended, silent, rfl⟩
      · rw [finished] at failed
        rw [failed] at ran
        obtain ⟨rfl, rfl⟩ := ran
        exact .inr ⟨fault, rfl, blamed, .inr ⟨_, [], rfl, rfl⟩⟩
  · obtain ⟨rfl, rfl⟩ := more
    rw [List.append_nil]
    exact .inr ⟨fault, rfl, blamed, .inl quiet⟩

/-- What the end of the built program makes of the request. -/
inductive Concludes (config : Config) (id script dir : String) :
    Launch → Except Fault RunOutput → Prop where
  | passed (stdout stderr : List (List UInt8)) (status : ExitStatus)
    (tolerated : Tolerated config stderr status) :
    Concludes config id script dir (.ended stdout stderr status)
      (.ok ⟨captured config stdout, warningsOf config stderr⟩)
  | failed {reply : Launch} {fault : Fault}
    (untolerated : ∀ stdout stderr status, reply = .ended stdout stderr status →
      ¬ Tolerated config stderr status)
    (blamed : Blames config id script [⟨.launch (programCall config dir), reply⟩] fault) :
    Concludes config id script dir reply (.error fault)

private theorem concludes_failure {stdout stderr : List (List UInt8)} {status : ExitStatus} {fault : Fault}
    (untolerated : ¬ Tolerated config stderr status)
    (blamed : Blames config id script
      [⟨.launch (programCall config dir), .ended stdout stderr status⟩] fault) :
    Concludes config id script dir (.ended stdout stderr status) (.error fault) := by
  apply Concludes.failed _ blamed
  intro _ _ _ same
  cases same
  exact untolerated

private theorem classify_finished (stdout stderr : List (List UInt8)) (status : ExitStatus) :
    Concludes config id script dir (.ended stdout stderr status)
      ((finished config stdout stderr status).classify config.stderrPolicy) := by
  have passed := success_iff config stdout stderr status
  have silent := stderr_empty_iff config stdout stderr status
  have seen : ⟨.launch (programCall config dir), .ended stdout stderr status⟩ ∈
      [(⟨.launch (programCall config dir), .ended stdout stderr status⟩ : Event)] := .head _
  by_cases ended : status.code = some 0
  · by_cases spoke : stderr.flatten = []
    · have none : warningsOf config stderr = none := if_neg fun both => both.2 spoke
      have through : (finished config stdout stderr status).classify config.stderrPolicy =
          .ok ⟨captured config stdout, warningsOf config stderr⟩ := by
        rw [none]
        simp only [Execution.classify, passed.mpr ended, silent.mpr spoke]
        rfl
      rw [through]
      exact .passed stdout stderr status ⟨ended, .inl spoke⟩
    · have written := Bool.eq_false_iff.mpr (mt silent.mp spoke)
      -- Only here does the policy decide: a good end, and something was said.
      cases policy : config.stderrPolicy with
      | warn =>
        have handed : warningsOf config stderr = some (captured config stderr) :=
          if_pos ⟨policy, spoke⟩
        have through : (finished config stdout stderr status).classify .warn =
            .ok ⟨captured config stdout, warningsOf config stderr⟩ := by
          rw [handed]
          simp only [Execution.classify, passed.mpr ended, written]
          rfl
        rw [through]
        exact .passed stdout stderr status ⟨ended, .inr policy⟩
      | fail =>
        have refused : (finished config stdout stderr status).classify .fail =
            .error (.runtimeDiagnostic (captured config stderr)) := by
          simp only [Execution.classify, passed.mpr ended, written]
          rfl
        rw [refused]
        refine concludes_failure ?_ (.programSpoke seen ended spoke policy)
        rintro ⟨_, quiet | lenient⟩
        · exact spoke quiet
        · rw [policy] at lenient
          cases lenient
  · have failed : (finished config stdout stderr status).success = false :=
      Bool.eq_false_iff.mpr (mt passed.mp ended)
    have refused : (finished config stdout stderr status).classify config.stderrPolicy =
        .error (.execution status (captured config stderr)) := by
      simp only [Execution.classify, failed]
      rfl
    rw [refused]
    exact concludes_failure (fun tolerated => ended tolerated.1) (.programFailed seen ended)

theorem execute_runs (id script : String) {result : Except Fault RunOutput}
    (run : Runs (Execution.run config (binaryIn dir)) events result) :
    ∃ reply, events = [⟨.launch (programCall config dir), reply⟩] ∧
      Concludes config id script dir reply result := by
  obtain ⟨reply, rest, rfl, run⟩ := run
  cases reply with
  | refused e =>
    obtain ⟨rfl, rfl⟩ := run
    refine ⟨_, rfl, .failed ?_ (.programRefused (.head _))⟩
    intro stdout stderr status same
    cases same
  | overran =>
    obtain ⟨rfl, rfl⟩ := run
    refine ⟨_, rfl, .failed ?_ (.programOverran (.head _))⟩
    intro stdout stderr status same
    cases same
  | ended stdout stderr status =>
    obtain ⟨rfl, rfl⟩ := run
    exact ⟨_, rfl, classify_finished stdout stderr status⟩

theorem close_runs {α : Type} {ws : Workspace} {answer result : α}
    (run : Runs (do ws.close; return answer) events result) :
    launches events = [] ∧ result = answer := by
  obtain ⟨first, _, rest, rfl, closed, rfl, rfl⟩ := runs_bind.mp run
  refine ⟨?_, rfl⟩
  rw [Workspace.close] at closed
  split at closed
  · obtain ⟨rfl, _⟩ := closed
    rfl
  · obtain ⟨_, _, rfl, rfl, _⟩ := closed
    rfl

end

end Tabscript.RequestStages
