import Tabscript.Proofs.RequestStages
import Tabscript.Proofs.ScriptTranslation

/-! Where a request stands, and where its fault belongs.

The stage of a failed request is known twice: from where the request was when it
ended, and from the kind of its fault. Both always name the same stage. Each step
of a request is shown to raise only faults of the stage it is taken in; the whole
request is then followed from one stage to the next, whatever the host replies. -/
namespace Tabscript.RequestCourse
open HostTranscript RequestStages ScriptTranslation

/-- The stages in the order in which a request enters them. -/
def order : List Stage :=
  [.parsing, .validating, .assembling, .building, .executing]

section Faults

variable {config : Config} {id : String} {ws : Workspace} {events : List Event} {fault : Fault}

private theorem parse_fault_stage {commands : List Command} (failed : Script.parse commands = .error fault) :
    fault.stage = .parsing := by
  rw [parse_eq_pass] at failed
  obtain ⟨command, first⟩ := pass_error_iff.mp failed
  obtain ⟨reason, rfl⟩ := parse_command_fault (first_fault_member first).2
  rfl

private theorem validate_fault_stage {calls : List Call} (failed : Script.validate calls = .error fault) :
    fault.stage = .validating := by
  rw [validate_eq_pass] at failed
  obtain ⟨call, first⟩ := pass_error_iff.mp failed
  exact misfit_stage (first_fault_member (statement_fault_iff.mp first)).2

private theorem create_fault_stage {root : String} {keep : Bool}
    (run : Runs (Workspace.create root id keep) events (.error fault)) : fault.stage = .building := by
  obtain ⟨made, rest, rfl, run⟩ := run
  cases made with
  | error e =>
    obtain ⟨_, same⟩ := run
    cases same
    rfl
  | ok _ =>
    obtain ⟨resolved, rest, rfl, run⟩ := run
    cases resolved with
    | error e =>
      obtain ⟨_, same⟩ := run
      cases same
      rfl
    | ok path =>
      obtain ⟨_, same⟩ := run
      cases same

private theorem write_fault_stage {source : String} (run : Runs (ws.writeSource source) events (.error fault)) :
    fault.stage = .building := by
  obtain ⟨written, rest, rfl, run⟩ := run
  cases written with
  | error e =>
    obtain ⟨_, same⟩ := run
    cases same
    rfl
  | ok _ =>
    obtain ⟨_, same⟩ := run
    cases same

private theorem check_fault_stage {e : Execution} (failed : Build.check e = .error fault) :
    fault.stage = .building := by
  unfold Build.check at failed
  split at failed
  · cases failed
  · split at failed
    · cases failed
      rfl
    · split at failed
      · cases failed
        rfl
      · cases failed
        rfl

private theorem compile_fault_stage {source : String}
    (run : Runs (Build.compile config ws source) events (.error fault)) :
    fault.stage = .building := by
  rw [Build.compile] at run
  obtain ⟨first, written, rest, rfl, wrote, more⟩ := runs_bind.mp run
  cases written with
  | error raised =>
    obtain ⟨_, same⟩ := more
    cases same
    exact write_fault_stage wrote
  | ok path =>
    obtain ⟨reply, rest, rfl, ran⟩ := more
    cases reply with
    | refused e =>
      obtain ⟨_, same⟩ := ran
      cases same
      rfl
    | overran =>
      obtain ⟨_, same⟩ := ran
      cases same
      rfl
    | ended stdout stderr status =>
      dsimp only [Plan.bind] at ran
      split at ran
      · rename_i raised failed
        obtain ⟨_, same⟩ := ran
        cases same
        exact check_fault_stage failed
      · obtain ⟨present, rest, rfl, last⟩ := ran
        cases present with
        | false =>
          obtain ⟨_, same⟩ := last
          cases same
          rfl
        | true =>
          obtain ⟨_, same⟩ := last
          cases same

private theorem classify_fault_stage {e : Execution} {policy : StderrPolicy}
    (failed : e.classify policy = .error fault) : fault.stage = .executing := by
  unfold Execution.classify at failed
  split at failed
  · cases failed
    rfl
  · split at failed
    · cases failed
    · cases policy with
      | fail =>
        cases failed
        rfl
      | warn => cases failed

private theorem execute_fault_stage {binary : String} (run : Runs (Execution.run config binary) events (.error fault)) :
    fault.stage = .executing := by
  obtain ⟨reply, rest, rfl, run⟩ := run
  cases reply with
  | refused e =>
    obtain ⟨_, same⟩ := run
    cases same
    rfl
  | overran =>
    obtain ⟨_, same⟩ := run
    cases same
    rfl
  | ended stdout stderr status =>
    obtain ⟨_, same⟩ := run
    exact classify_fault_stage same.symm

end Faults

/-- A result that may end a request in the given stage: only the last stage can
succeed, and a fault has to be one of the stage itself. -/
def Ends (stage : Stage) : Except Fault RunOutput → Prop
  | .ok _ => stage = .executing
  | .error fault => fault.stage = stage

/-- A request that is in the given stage has entered the stages up to it, in order. -/
def reached (stage : Stage) : Course :=
  ⟨.running stage, order.takeWhile (· ≠ stage) ++ [stage]⟩

section

variable {config : Config} {id script : String} {events : List Event}

/-- Wherever a request stops, it has come there stage by stage, and its result
belongs to that stage. -/
theorem drive_ends {after : Course} {result : Except Fault RunOutput}
    (run : Runs (Pipeline.drive config id script ⟨.idle, []⟩) events (after, result)) :
    ∃ stage, after = reached stage ∧ Ends stage result := by
  rw [Pipeline.drive] at run
  cases parsed : Script.parse (Script.commands script) with
  | error fault =>
    rw [parsed] at run
    obtain ⟨_, same⟩ := run
    cases same
    exact ⟨.parsing, rfl, parse_fault_stage parsed⟩
  | ok calls =>
    rw [parsed] at run
    dsimp only at run
    cases validated : Script.validate calls with
    | error fault =>
      rw [validated] at run
      obtain ⟨_, same⟩ := run
      cases same
      exact ⟨.validating, rfl, validate_fault_stage validated⟩
    | ok statements =>
      rw [validated] at run
      dsimp only at run
      obtain ⟨first, opened, rest, rfl, created, more⟩ := runs_bind.mp run
      cases opened with
      | error fault =>
        obtain ⟨_, same⟩ := more
        cases same
        exact ⟨.building, rfl, create_fault_stage created⟩
      | ok ws =>
        dsimp only at more
        obtain ⟨second, built, rest, rfl, compiled, closing⟩ := runs_bind.mp more
        cases built with
        | error fault =>
          obtain ⟨_, same⟩ := close_runs closing
          cases same
          exact ⟨.building, rfl, compile_fault_stage compiled⟩
        | ok binary =>
          obtain ⟨third, found, rest, rfl, executed, last⟩ := runs_bind.mp closing
          obtain ⟨_, same⟩ := close_runs last
          cases same
          refine ⟨.executing, rfl, ?_⟩
          cases result with
          | ok output => rfl
          | error fault => exact execute_fault_stage executed

theorem run_ends {report : Report} (run : Runs (Pipeline.run config id script) events report) :
    ∃ stage, Ends stage report.result ∧ report.entered = (reached stage).entered ∧
      report.state = (RunState.running stage).finish report.result := by
  obtain ⟨first, ⟨after, result⟩, rest, rfl, drove, _, rfl⟩ := runs_bind.mp run
  obtain ⟨stage, rfl, ends⟩ := drive_ends drove
  exact ⟨stage, ends, rfl, rfl⟩

end

theorem reached_prefix (stage : Stage) : (reached stage).entered <+: order := by
  cases stage with
  | parsing => exact ⟨[.validating, .assembling, .building, .executing], rfl⟩
  | validating => exact ⟨[.assembling, .building, .executing], rfl⟩
  | assembling => exact ⟨[.building, .executing], rfl⟩
  | building => exact ⟨[.executing], rfl⟩
  | executing => exact ⟨[], rfl⟩

/-- What can still be done to the state of a request. -/
inductive Move where
  | advance (stage : Stage)
  | finish (result : Except Fault RunOutput)

def Move.apply (state : RunState) : Move → RunState
  | .advance stage => state.advance stage
  | .finish result => state.finish result

theorem terminal_kept {state : RunState} (terminal : state.isTerminal = true) (move : Move) :
    move.apply state = state := by
  cases move with
  | advance stage => exact if_pos terminal
  | finish result => exact if_pos terminal

theorem terminal_absorbs {state : RunState} (terminal : state.isTerminal = true) (moves : List Move) :
    moves.foldl (fun state move => move.apply state) state = state := by
  induction moves with
  | nil => rfl
  | cons move more ih => rw [List.foldl_cons, terminal_kept terminal, ih]

/-- On every host, a request ends in a state that agrees with its result: it is
done exactly if there is a result, and else has failed in the stage and with the
message of its fault, which the caller is told too. The stages it has entered are
the first ones of their order, up to the one where it ended, and nothing changes
a state that is final. -/
theorem state_agrees_with_result {σ : Type} (host : (effect : Effect) → StateM σ effect.Reply) (start : σ)
    (config : Config) (id script : String) :
    let report := ((Pipeline.run config id script).run host start).1
    report.state.isTerminal = true ∧
    (report.state = .done ↔ ∃ output, report.result = .ok output) ∧
    (∀ fault, report.result = .error fault →
      report.state = .failed fault.stage fault.message ∧ report.outcome.error = some fault.message ∧
        report.entered.getLast? = some fault.stage) ∧
    report.entered <+: order ∧ (report.state = .done → report.entered = order) ∧
    (∀ state : RunState, state.isTerminal = true → ∀ moves : List Move,
      moves.foldl (fun state move => move.apply state) state = state) := by
  intro report
  obtain ⟨stage, ends, entered, finished⟩ :=
    run_ends (transcript_runs host (Pipeline.run config id script) start)
  have shown : report.entered = (reached stage).entered := entered
  have state : report.state = (RunState.running stage).finish report.result := finished
  have last : report.entered.getLast? = some stage := by
    rw [shown]
    exact List.getLast?_concat
  have ordered : report.entered <+: order := by
    rw [shown]
    exact reached_prefix stage
  cases outcome : report.result with
  | ok output =>
    have succeeded : report.state = .done := by
      rw [state, outcome]
      rfl
    have whole : report.entered = order := by
      have stageLast : Ends stage (.ok output) := outcome ▸ ends
      rw [shown, show stage = .executing from stageLast]
      rfl
    rw [succeeded]
    refine ⟨rfl, ⟨fun _ => ⟨output, rfl⟩, fun _ => rfl⟩, ?_, ordered, fun _ => whole, ?_⟩
    · intro fault failed
      cases failed
    · intro state terminal moves
      exact terminal_absorbs terminal moves
  | error fault =>
    have belongs : fault.stage = stage := by
      have ended : Ends stage (.error fault) := outcome ▸ ends
      exact ended
    have failed : report.state = .failed fault.stage fault.message := by
      rw [state, outcome, belongs]
      rfl
    rw [failed]
    refine ⟨rfl, ⟨nofun, ?_⟩, ?_, ordered, nofun, ?_⟩
    · rintro ⟨output, same⟩
      cases same
    · intro found same
      cases same
      refine ⟨rfl, ?_, ?_⟩
      · rw [Report.outcome, outcome]
        rfl
      · rw [last, belongs]
    · intro state terminal moves
      exact terminal_absorbs terminal moves

end Tabscript.RequestCourse
