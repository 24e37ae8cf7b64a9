import Tabscript.Plan

/-! What a plan asks of its host, and what it is told, in order.

A host is any function of its own state, so a reply may depend on all that
happened before. `Runs` forgets the host and keeps the replies: what holds of
every run of a plan holds on every host, and is shown without one. -/
namespace Tabscript.HostTranscript

variable {α β σ : Type}

/-- An effect together with the reply it got. -/
structure Event where
  effect : Effect
  reply : effect.Reply

/-- The plan ends with this result when its effects get these replies. -/
def Runs : Plan α → List Event → α → Prop
  | .done a, events, result => events = [] ∧ result = a
  | .ask effect next, events, result =>
    ∃ reply rest, events = ⟨effect, reply⟩ :: rest ∧ Runs (next reply) rest result

/-- A run of two plans in a row is a run of the first and then one of the
second, which starts from what the first has found. -/
theorem runs_bind {plan : Plan α} {next : α → Plan β} {events : List Event} {result : β} :
    Runs (plan >>= next) events result ↔
      ∃ first a rest, events = first ++ rest ∧ Runs plan first a ∧ Runs (next a) rest result := by
  induction plan generalizing events with
  | done a =>
    constructor
    · intro run
      exact ⟨[], a, events, rfl, ⟨rfl, rfl⟩, run⟩
    · rintro ⟨first, found, rest, rfl, ⟨rfl, rfl⟩, run⟩
      exact run
  | ask effect more ih =>
    constructor
    · rintro ⟨reply, tail, rfl, run⟩
      obtain ⟨first, a, rest, rfl, head, last⟩ := (ih reply).mp run
      exact ⟨⟨effect, reply⟩ :: first, a, rest, rfl, ⟨reply, first, rfl, head⟩, last⟩
    · rintro ⟨first, a, rest, rfl, ⟨reply, tail, rfl, head⟩, last⟩
      exact ⟨reply, tail ++ rest, rfl, (ih reply).mpr ⟨tail, a, rest, rfl, head, last⟩⟩

/-- The same host, which also notes down each effect with its reply. -/
def recording (host : (effect : Effect) → StateM σ effect.Reply) (effect : Effect) :
    StateM (σ × List Event) effect.Reply := fun (state, seen) =>
  let (reply, after) := host effect state
  (reply, after, seen ++ [⟨effect, reply⟩])

/-- What happens between a plan and a host, from a state of the host on. -/
def transcript (host : (effect : Effect) → StateM σ effect.Reply) (plan : Plan α) (start : σ) :
    List Event :=
  (plan.run (recording host) (start, [])).2.2

private theorem recorded_run (host : (effect : Effect) → StateM σ effect.Reply) (plan : Plan α)
    (start : σ) (seen : List Event) :
    ∃ events, plan.run (recording host) (start, seen) =
        ((plan.run host start).1, (plan.run host start).2, seen ++ events) ∧
      Runs plan events (plan.run host start).1 := by
  induction plan generalizing start seen with
  | done a =>
    refine ⟨[], ?_, rfl, rfl⟩
    rw [List.append_nil]
    rfl
  | ask effect next ih =>
    obtain ⟨events, recorded, run⟩ := ih (host effect start).1 (host effect start).2
      (seen ++ [⟨effect, (host effect start).1⟩])
    refine ⟨⟨effect, (host effect start).1⟩ :: events, ?_, _, events, rfl, run⟩
    rw [List.append_assoc] at recorded
    exact recorded

/-- Recording changes nothing: the transcript leads to the very result that
the plan has on the host itself. -/
theorem transcript_runs (host : (effect : Effect) → StateM σ effect.Reply) (plan : Plan α)
    (start : σ) : Runs plan (transcript host plan start) (plan.run host start).1 := by
  obtain ⟨events, recorded, run⟩ := recorded_run host plan start []
  have same : transcript host plan start = events := by
    rw [transcript, recorded, List.nil_append]
  rw [same]
  exact run

@[simp] theorem run_pure {host : (effect : Effect) → StateM σ effect.Reply} (a : α) (state : σ) :
    (pure a : Plan α).run host state = (a, state) := rfl

@[simp] theorem run_bind {host : (effect : Effect) → StateM σ effect.Reply} (plan : Plan α) (next : α → Plan β)
    (state : σ) :
    (plan >>= next).run host state = (next (plan.run host state).1).run host (plan.run host state).2 := by
  induction plan generalizing state with
  | done a => rfl
  | ask effect more ih => exact ih (host effect state).1 (host effect state).2

private theorem recording_run (host : (effect : Effect) → StateM σ effect.Reply) (plan : Plan α) (state : σ)
    (seen : List Event) :
    plan.run (recording host) (state, seen) =
      ((plan.run host state).1, (plan.run host state).2, seen ++ transcript host plan state) := by
  induction plan generalizing state seen with
  | done a =>
    have none : transcript host (.done a) state = [] := rfl
    rw [none, List.append_nil]
    rfl
  | ask effect next ih =>
    have later := ih (host effect state).1 (host effect state).2
    have whole : transcript host (.ask effect next) state = ⟨effect, (host effect state).1⟩ ::
        transcript host (next (host effect state).1) (host effect state).2 :=
      congrArg (fun result => result.2.2) (later [⟨effect, (host effect state).1⟩])
    have again := later (seen ++ [⟨effect, (host effect state).1⟩])
    rw [List.append_assoc, List.singleton_append, ← whole] at again
    exact again

@[simp] theorem transcript_ask (host : (effect : Effect) → StateM σ effect.Reply) (effect : Effect)
    (next : effect.Reply → Plan α) (state : σ) :
    transcript host (.ask effect next) state = ⟨effect, (host effect state).1⟩ ::
      transcript host (next (host effect state).1) (host effect state).2 :=
  congrArg (fun result => result.2.2)
    (recording_run host (next (host effect state).1) (host effect state).2 [⟨effect, (host effect state).1⟩])

/-- The first event of a transcript is the host's own reply, and what follows is a transcript
from the state that this reply leaves. -/
theorem transcript_head {host : (effect : Effect) → StateM σ effect.Reply} {plan : Plan α} {state : σ}
    {effect : Effect} {reply : effect.Reply} {rest : List Event}
    (starts : transcript host plan state = ⟨effect, reply⟩ :: rest) :
    reply = (host effect state).1 ∧ ∃ later : Plan α, rest = transcript host later (host effect state).2 := by
  cases plan with
  | done a => cases starts
  | ask asked next =>
    rw [transcript_ask] at starts
    cases starts
    exact ⟨rfl, _, rfl⟩

/-- The transcript of two plans in a row. -/
@[simp] theorem transcript_bind (host : (effect : Effect) → StateM σ effect.Reply) (plan : Plan α) (next : α → Plan β)
    (state : σ) :
    transcript host (plan >>= next) state = transcript host plan state ++
      transcript host (next (plan.run host state).1) (plan.run host state).2 := by
  rw [transcript, run_bind, recording_run host plan, List.nil_append, recording_run]

/-- The processes that a host was asked to start, in order. -/
def launches (events : List Event) : List Invocation :=
  events.filterMap fun event =>
    match event.effect with
    | .launch call => some call
    | _ => none

@[simp] theorem launches_append (first rest : List Event) :
    launches (first ++ rest) = launches first ++ launches rest :=
  List.filterMap_append

@[simp] theorem launches_launch (call : Invocation) (reply : Launch) (rest : List Event) :
    launches (⟨.launch call, reply⟩ :: rest) = call :: launches rest := rfl

theorem launched_member {call : Invocation} {reply : Launch} {events : List Event}
    (member : ⟨.launch call, reply⟩ ∈ events) : call ∈ launches events :=
  List.mem_filterMap.mpr ⟨_, member, rfl⟩

/-- After a stretch without processes and one more event, the next process is
that event or comes later. -/
theorem launch_split (front : List Event) {back earlier later : List Event} {event : Event} {call : Invocation}
    {reply : Launch} (quiet : launches front = [])
    (same : front ++ event :: back = earlier ++ ⟨.launch call, reply⟩ :: later) :
    (earlier = front ∧ event = ⟨.launch call, reply⟩) ∨
      ∃ gap, earlier = front ++ event :: gap ∧ back = gap ++ ⟨.launch call, reply⟩ :: later := by
  obtain ⟨gap, rfl, behind⟩ | ⟨gap, rfl, behind⟩ := List.append_eq_append_iff.mp same
  · cases gap with
    | nil =>
      obtain ⟨rfl, rfl⟩ := List.cons.inj behind
      exact .inl ⟨List.append_nil front, rfl⟩
    | cons next gap =>
      obtain ⟨rfl, rfl⟩ := List.cons.inj behind
      exact .inr ⟨gap, rfl, rfl⟩
  · cases gap with
    | nil =>
      obtain ⟨rfl, rfl⟩ := List.cons.inj behind
      exact .inl ⟨(List.append_nil earlier).symm, rfl⟩
    | cons next gap =>
      -- The process would lie inside the stretch that has none.
      obtain ⟨rfl, rfl⟩ := List.cons.inj behind
      simp at quiet

end Tabscript.HostTranscript
