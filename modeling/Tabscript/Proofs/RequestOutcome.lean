import Tabscript.Proofs.RequestStages

/-! What a caller is told about a request, on every host.

A request unfolds in one of three ways: no process is started, or the compiler
alone, or the compiler and then the program. Each statement about outcomes and
about the order of processes is read off that one fact. -/
namespace Tabscript.RequestOutcome
open HostTranscript RequestStages

section

variable {config : Config} {id script dir : String} {events : List Event}

/-- The events of a program that lies in its folder. -/
def staging (config : Config) (id dir source : String) : List Event :=
  opening config id dir ++ [writing dir source]

/-- All that a request can come to: no process is started, or the compiler
alone, or the compiler and then the program. -/
inductive Unfolds (config : Config) (id script : String) :
    List Event → Except Fault RunOutput → Prop where
  | stalled {events : List Event} {fault : Fault} (quiet : launches events = [])
    (blamed : Blames config id script events fault) : Unfolds config id script events (.error fault)
  | unbuilt (dir : String) {statements : List Statement} {reply : Launch} {later : List Event}
    {fault : Fault} (translated : Script.translate script = .ok statements)
    (quiet : launches later = [])
    (blamed : Blames config id script (staging config id dir (Program.assemble statements).source ++
      ⟨.launch (compilerCall config dir), reply⟩ :: later) fault) :
    Unfolds config id script (staging config id dir (Program.assemble statements).source ++
      ⟨.launch (compilerCall config dir), reply⟩ :: later) (.error fault)
  | started (dir : String) {statements : List Statement} {stdout stderr : List (List UInt8)}
    {status : ExitStatus} {reply : Launch} {later : List Event} {result : Except Fault RunOutput}
    (translated : Script.translate script = .ok statements) (ended : status.code = some 0)
    (silent : stderr.flatten = []) (quiet : launches later = [])
    (judged : Concludes config id script dir reply result) :
    Unfolds config id script (staging config id dir (Program.assemble statements).source ++
      building config dir stdout stderr status ++
        ⟨.launch (programCall config dir), reply⟩ :: later) result

private theorem failed_build_unfolds {statements : List Statement} {keep : Bool} {fault : Fault}
    {building closing : List Event} (translated : Script.translate script = .ok statements)
    (compiled : Runs (Build.compile config ⟨dir, keep⟩ (Program.assemble statements).source)
      building (.error fault))
    (closed : launches closing = []) :
    Unfolds config id script (opening config id dir ++ (building ++ closing)) (.error fault) := by
  obtain ⟨_, _, _, _, _, _, success⟩ | ⟨_, same, blamed, calls⟩ :=
    compile_runs id script compiled
  · cases success
  · cases same
    have explained : Blames config id script (opening config id dir ++ (building ++ closing)) fault :=
      blames_mono (fun event member => by simp [member]) blamed
    obtain none | ⟨reply, later, quiet, rfl⟩ := calls
    · refine .stalled ?_ explained
      rw [launches_append, launches_append, none, closed]
      rfl
    · have still : launches (later ++ closing) = [] := by
        rw [launches_append, quiet, closed, List.append_nil]
      exact .unbuilt dir translated still explained

/-- Whatever the host replies, a request unfolds in one of the three ways. -/
theorem drive_runs {course after : Course} {result : Except Fault RunOutput}
    (run : Runs (Pipeline.drive config id script course) events (after, result)) :
    Unfolds config id script events result := by
  rw [Pipeline.drive] at run
  cases parsed : Script.parse (Script.commands script) with
  | error fault =>
    rw [parsed] at run
    obtain ⟨rfl, same⟩ := run
    cases same
    have rejected : Script.translate script = .error fault := by rw [Script.translate, parsed]
    exact .stalled rfl (.script rejected)
  | ok calls =>
    have translated : Script.translate script = Script.validate calls := by
      rw [Script.translate, parsed]
    rw [parsed] at run
    dsimp only at run
    cases validated : Script.validate calls with
    | error fault =>
      rw [validated] at run translated
      obtain ⟨rfl, same⟩ := run
      cases same
      exact .stalled rfl (.script translated)
    | ok statements =>
      rw [validated] at run translated
      dsimp only at run
      obtain ⟨first, opened, rest, rfl, created, run⟩ := runs_bind.mp run
      obtain ⟨dir, rfl, rfl⟩ | ⟨quiet, fault, rfl, blamed⟩ := create_runs script created
      · dsimp only at run
        obtain ⟨second, built, rest, rfl, compiled, run⟩ := runs_bind.mp run
        cases built with
        | error fault =>
          obtain ⟨closed, same⟩ := close_runs run
          cases same
          exact failed_build_unfolds translated compiled closed
        | ok binary =>
          obtain ⟨stdout, stderr, status, rfl, ended, silent, same⟩ | ⟨_, same, _⟩ :=
            compile_runs id script compiled
          · cases same
            obtain ⟨third, found, rest, rfl, executed, last⟩ := runs_bind.mp run
            obtain ⟨reply, rfl, judged⟩ := execute_runs id script executed
            obtain ⟨closed, same⟩ := close_runs last
            cases same
            exact .started dir translated ended silent closed judged
          · cases same
      · obtain ⟨rfl, same⟩ := run
        cases same
        rw [List.append_nil]
        exact .stalled quiet blamed

theorem process_runs {outcome : Outcome}
    (run : Runs (Pipeline.process config id script) events outcome) :
    ∃ result, outcome = Outcome.ofResult result ∧ Unfolds config id script events result := by
  obtain ⟨first, report, rest, rfl, ran, rfl, rfl⟩ := runs_bind.mp run
  obtain ⟨driven, ⟨after, result⟩, closing, rfl, drove, rfl, rfl⟩ := runs_bind.mp ran
  refine ⟨result, rfl, ?_⟩
  rw [List.append_nil, List.append_nil]
  exact drive_runs drove

theorem staging_staged {statements : List Statement}
    (translated : Script.translate script = .ok statements) :
    Staged config id script dir (staging config id dir (Program.assemble statements).source) :=
  ⟨.head _, .tail _ (.head _), statements, translated, .tail _ (.tail _ (.head _))⟩

theorem building_built {statements : List Statement} {stdout stderr : List (List UInt8)}
    {status : ExitStatus} (translated : Script.translate script = .ok statements)
    (ended : status.code = some 0) (silent : stderr.flatten = []) :
    Built config id script dir (staging config id dir (Program.assemble statements).source ++
      building config dir stdout stderr status) where
  staged := staged_mono (List.subset_append_left _ _) (staging_staged translated)
  compiled := ⟨stdout, stderr, status, List.mem_append_right _ (.head _), ended, silent⟩
  present := List.mem_append_right _ (.tail _ (.head _))

private theorem built_mono {more : List Event} (sub : events ⊆ more)
    (built : Built config id script dir events) : Built config id script dir more := by
  obtain ⟨stdout, stderr, status, seen, ended, silent⟩ := built.compiled
  exact ⟨staged_mono sub built.staged, ⟨stdout, stderr, status, sub seen, ended, silent⟩,
    sub built.present⟩

private theorem building_launches {source : String} (stdout stderr : List (List UInt8))
    (status : ExitStatus) :
    launches (staging config id dir source ++ building config dir stdout stderr status) =
      [compilerCall config dir] :=
  rfl

/-- The program has one reply, however its folder is named. -/
private theorem program_reply {there source : String} {stdout stderr : List (List UInt8)} {status : ExitStatus}
    {found reply : Launch} {later : List Event} (quiet : launches later = [])
    (seen : ⟨.launch (programCall config dir), found⟩ ∈ staging config id there source ++
      building config there stdout stderr status ++ ⟨.launch (programCall config there), reply⟩ :: later) :
    found = reply := by
  obtain earlier | final := List.mem_append.mp seen
  · have call := launched_member earlier
    rw [building_launches, List.mem_singleton] at call
    exact absurd call.symm (compiler_call_ne_program_call there dir)
  · obtain same | after := List.mem_cons.mp final
    · exact eq_of_heq (Event.mk.inj same).2
    · have call := launched_member after
      rw [quiet] at call
      cases call

theorem unfolds_ok {output : RunOutput} (unfolds : Unfolds config id script events (.ok output)) :
    ∃ dir stdout stderr, Built config id script dir events ∧ Ran config dir stdout stderr events := by
  cases unfolds with
  | started dir translated ended silent quiet judged =>
    cases judged with
    | passed stdout stderr status tolerated =>
      refine ⟨dir, stdout, stderr, ?_, status, List.mem_append_right _ (.head _), tolerated⟩
      exact built_mono (List.subset_append_left _ _) (building_built translated ended silent)

/-- A program that was let through decides the result alone: whatever else
could have failed has not. -/
theorem ran_result {stdout stderr : List (List UInt8)} {result : Except Fault RunOutput}
    (unfolds : Unfolds config id script events result) (ran : Ran config dir stdout stderr events) :
    result = .ok ⟨captured config stdout, warningsOf config stderr⟩ := by
  obtain ⟨status, seen, tolerated⟩ := ran
  have call := launched_member seen
  cases unfolds with
  | stalled quiet blamed =>
    rw [quiet] at call
    cases call
  | unbuilt there translated quiet blamed =>
    rw [launches_append, launches_launch, quiet] at call
    have only : programCall config dir = compilerCall config there := List.mem_singleton.mp call
    exact absurd only.symm (compiler_call_ne_program_call there dir)
  | started dir translated ended silent quiet judged =>
    have same := program_reply quiet seen
    cases judged with
    | passed =>
      cases same
      rfl
    | failed untolerated => exact absurd tolerated (untolerated _ _ _ same.symm)

theorem unfolds_error {fault : Fault} (unfolds : Unfolds config id script events (.error fault)) :
    Blames config id script events fault := by
  cases unfolds with
  | stalled quiet blamed => exact blamed
  | unbuilt dir translated quiet blamed => exact blamed
  | started dir translated ended silent quiet judged =>
    cases judged with
    | failed untolerated blamed =>
      refine blames_mono (fun event member => ?_) blamed
      obtain rfl := List.mem_singleton.mp member
      exact List.mem_append_right _ (.head _)

theorem unfolds_launches {result : Except Fault RunOutput}
    (unfolds : Unfolds config id script events result) :
    ∃ dir, launches events <+: [compilerCall config dir, programCall config dir] := by
  cases unfolds with
  | stalled quiet blamed =>
    rw [quiet]
    exact ⟨"", List.nil_prefix⟩
  | unbuilt dir translated quiet blamed =>
    rw [launches_append, launches_launch, quiet]
    exact ⟨dir, [programCall config dir], rfl⟩
  | started dir translated ended silent quiet judged =>
    rw [launches_append, launches_launch, quiet, building_launches]
    exact ⟨dir, [], rfl⟩

/-- No process comes too early: the compiler finds a staged program and is the
first process, and the program finds a good build and is the second. -/
theorem unfolds_order {result : Except Fault RunOutput} {earlier later : List Event}
    {call : Invocation} {reply : Launch} (unfolds : Unfolds config id script events result)
    (split : events = earlier ++ ⟨.launch call, reply⟩ :: later) :
    ∃ dir, (call = compilerCall config dir ∧ launches earlier = [] ∧
        Staged config id script dir earlier) ∨
      (call = programCall config dir ∧ launches earlier = [compilerCall config dir] ∧
        Built config id script dir earlier) := by
  cases unfolds with
  | stalled quiet blamed =>
    rw [split] at quiet
    simp at quiet
  | unbuilt dir translated quiet blamed =>
    obtain ⟨rfl, same⟩ | ⟨gap, rfl, rfl⟩ := launch_split _ rfl split
    · cases same
      exact ⟨dir, .inl ⟨rfl, rfl, staging_staged translated⟩⟩
    · simp at quiet
  | started dir translated ended silent quiet judged =>
    rw [List.append_assoc] at split
    obtain ⟨rfl, same⟩ | ⟨gap, rfl, behind⟩ := launch_split _ rfl split
    · cases same
      exact ⟨dir, .inl ⟨rfl, rfl, staging_staged translated⟩⟩
    · obtain ⟨rfl, same⟩ | ⟨gap, rfl, rfl⟩ :=
        launch_split [⟨.isPresent (binaryIn dir), true⟩] rfl behind
      · cases same
        exact ⟨dir, .inr ⟨rfl, rfl, building_built translated ended silent⟩⟩
      · simp at quiet

end

end Tabscript.RequestOutcome
