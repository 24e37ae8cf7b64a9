import Tabscript.Build

/-!
A request from its script to its outcome. The script is read and checked as a whole, the program is assembled, built
in a workspace of its own and run; the first stage that fails ends the request. A request that has ended never
changes its state again.
-/
namespace Tabscript

inductive RunState where
  | idle
  | running (stage : Stage)
  | done
  | failed (stage : Stage) (message : String)
  deriving DecidableEq, Repr

namespace RunState

def isTerminal : RunState → Bool
  | .idle => false
  | .running _ => false
  | .done => true
  | .failed _ _ => true

def advance (state : RunState) (stage : Stage) : RunState :=
  if state.isTerminal then state else .running stage

/-- Ends a request with its result; a fault is put down to the stage that the request is in. -/
def finish (state : RunState) (result : Except Fault RunOutput) : RunState :=
  if state.isTerminal then state
  else match result, state with
    | .ok _, _ => .done
    | .error fault, .running stage => .failed stage fault.message
    | .error fault, _ => .failed fault.stage fault.message

end RunState

/-- The course of a request: where it is, and the stages it has entered so far, in order. -/
structure Course where
  state : RunState
  entered : List Stage
  deriving DecidableEq, Repr

/-- Only a stage that the state is really in afterwards counts as entered; a request that is over enters none. -/
def Course.enter (course : Course) (stage : Stage) : Course :=
  match course.state.advance stage with
  | .running now => ⟨.running now, course.entered ++ [now]⟩
  | state => ⟨state, course.entered⟩

/-- All that is known about a request that has ended. -/
structure Report where
  state : RunState
  entered : List Stage
  result : Except Fault RunOutput

def Report.outcome (report : Report) : Outcome :=
  Outcome.ofResult report.result

namespace Pipeline

/-- Takes a request through its stages; gives how far it came and its result. -/
def drive (config : Config) (id script : String) (course : Course) : Plan (Course × Except Fault RunOutput) := do
  let course := course.enter .parsing
  match Script.parse (Script.commands script) with
  | .error fault => return (course, .error fault)
  | .ok calls =>
    let course := course.enter .validating
    match Script.validate calls with
    | .error fault => return (course, .error fault)
    | .ok statements =>
      let course := course.enter .assembling
      let program := Program.assemble statements
      let course := course.enter .building
      match ← Workspace.create config.workspaceRoot id config.keepWorkspaces with
      | .error fault => return (course, .error fault)
      | .ok ws =>
        match ← Build.compile config ws program.source with
        | .error fault =>
          ws.close
          return (course, .error fault)
        | .ok binary =>
          let course := course.enter .executing
          let result ← Execution.run config binary
          ws.close
          return (course, result)

/-- Handles the request with the given identifier from its script to its report. -/
def run (config : Config) (id script : String) : Plan Report := do
  let (course, result) ← drive config id script ⟨.idle, []⟩
  return ⟨course.state.finish result, course.entered, result⟩

/-- Handles a request and gives the answer to it. -/
def process (config : Config) (id script : String) : Plan Outcome := do
  let report ← run config id script
  return report.outcome

end Pipeline
end Tabscript
