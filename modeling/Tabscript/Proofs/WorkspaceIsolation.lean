import Mathlib.Logic.Function.Basic
import Tabscript.Proofs.WorkspaceFolders

/-! Parties that work below one root at the same time do not notice each other, as long
as no two of them use the same identifier.

The steps of all parties are taken in any order. What one step can change is said once
(`Change`): missing folders on the way to the root appear, and the folders of the
party's own identifiers change. A run of all steps is then followed beside the run of
one party's steps alone. -/
namespace Tabscript.WorkspaceIsolation
open FileTree TreeLookups PathNames FolderPaths FolderMaking FolderLocality WorkspaceFolders HostTranscript

/-- What a party can do with workspaces. An open one is named by its slot, the number of
times the party has opened one before. -/
inductive Step where
  | create (id : String) (keep : Bool)
  | write (slot : Nat) (source : String)
  | drop (slot : Nat)
  deriving DecidableEq, Repr

/-- What a step gives back. -/
inductive Reply where
  | created (result : Except Fault Workspace)
  | wrote (result : Except Fault String)
  | dropped
  /-- There is no open workspace in the slot. -/
  | closed
  deriving DecidableEq

/-- The workspaces that a party has opened; nothing is left in the slot of one that
could not be opened or was dropped. -/
abbrev Desk := List (Option Workspace)

def Step.plan (root : String) (desk : Desk) : Step → Plan (Reply × Desk)
  | .create id keep => do
    let result ← Workspace.create root id keep
    return (.created result, desk ++ [result.toOption])
  | .write slot source =>
    match desk[slot]?.join with
    | none => return (.closed, desk)
    | some ws => do
      let result ← ws.writeSource source
      return (.wrote result, desk)
  | .drop slot =>
    match desk[slot]?.join with
    | none => return (.closed, desk)
    | some ws => do
      ws.close
      return (.dropped, desk.set slot none)

/-- The files, and the workspaces that each party has open. -/
structure Scene (ι : Type) where
  desks : ι → Desk
  tree : FileTree

section Runs

variable {ι : Type} [DecidableEq ι] (host : (effect : Effect) → StateM FileTree effect.Reply) (root : String)

def takeStep (scene : Scene ι) (party : ι) (step : Step) : Reply × Scene ι :=
  let result := (step.plan root (scene.desks party)).run host scene.tree
  (result.1.1, ⟨Function.update scene.desks party result.1.2, result.2⟩)

/-- Takes steps in order, each for its party. -/
def perform : List (ι × Step) → Scene ι → List (ι × Reply) × Scene ι
  | [], scene => ([], scene)
  | (party, step) :: more, scene =>
    let taken := takeStep host root scene party step
    let rest := perform more taken.2
    ((party, taken.1) :: rest.1, rest.2)

end Runs

/-- The part that one party has in a list of steps or of replies. -/
def partOf {ι α : Type} [DecidableEq ι] (party : ι) (entries : List (ι × α)) : List (ι × α) :=
  entries.filter fun entry => entry.1 = party

/-- Nothing but the files, before anything was opened. -/
def quiet {ι : Type} (t : FileTree) : Scene ι :=
  ⟨fun _ => [], t⟩

/-- The party opens a workspace with this identifier at some step. -/
def Uses {ι : Type} (steps : List (ι × Step)) (party : ι) (id : String) : Prop :=
  ∃ keep, (party, Step.create id keep) ∈ steps

variable {ι : Type} {t t₀ s after : FileTree} {cwd : Location} {root id : String}
  {own : ι → String → Prop} {ids : String → Prop} {desk : Desk} (input : List UInt8)
  (launch : Invocation → StateM FileTree Launch)

/-- Parties with identifiers of their own below a common root: the path of the root starts
in a folder with proper names, identifiers are single components of paths, and each is
used by one party only. -/
structure Partitioned (t : FileTree) (cwd : Location) (root : String) (own : ι → String → Prop) : Prop where
  sound : Sound t
  begins : t.get? (start cwd root) = some .folder
  names : ∀ name ∈ start cwd root, IsComponent name
  component : ∀ party id, own party id → IsComponent id
  disjoint : ∀ party other id, own party id → own other id → party = other

/-- What is asked of parties that share a root. A path of the root that goes back up with
two dots must not lead through the folder of an identifier, which is made again whenever
the path is walked, nor to a file behind a folder that is missing. -/
structure Shared (t : FileTree) (cwd : Location) (root : String) (own : ι → String → Prop) : Prop
    extends Partitioned t cwd root own where
  path : ".." ∉ Path.pieces root ∨
    (Steady t (ground cwd root) ∧
      ∀ party id, own party id → ∀ m ∈ ground cwd root, ¬ place cwd root id <+: m)

theorem shared_steady (shared : Shared t cwd root own) : Steady t (ground cwd root) := by
  rcases shared.path with plain | ⟨steady, _⟩
  · exact steady_plain shared.sound plain
  · exact steady

theorem shared_apart (shared : Shared t cwd root own) {party : ι} (owned : own party id) (m : Location)
    (member : m ∈ ground cwd root) : ¬ place cwd root id <+: m := by
  rcases shared.path with plain | ⟨_, apart⟩
  · intro above
    have short := (above.trans (way_below plain member)).length_le
    rw [place, List.length_append, List.length_singleton] at short
    omega
  · exact apart party id owned m member

section Standing

/-- Every workspace on the desk is the folder of an identifier of the party, and the way
to the root is there. -/
def Holds (t : FileTree) (cwd : Location) (root : String) (ids : String → Prop) (desk : Desk) : Prop :=
  ∀ ws, some ws ∈ desk →
    Paved t (ground cwd root) ∧ ∃ id, ids id ∧ ws.dir = absolute (place cwd root id)

theorem change_holds (shared : Shared t₀ cwd root own) {party : ι}
    (change : Change t cwd root (own party) after) (holds : Holds t cwd root ids desk) :
    Holds after cwd root ids desk := by
  intro ws member
  obtain ⟨paved, held⟩ := holds ws member
  exact ⟨change_paved (fun _ => shared_apart shared) change paved, held⟩

/-- The tree and all desks are as steps below the root leave them. -/
structure Standing (t₀ : FileTree) (cwd : Location) (root : String) (own : ι → String → Prop) (scene : Scene ι) :
    Prop where
  stands : Stands t₀ cwd root scene.tree
  holds : ∀ party, Holds scene.tree cwd root (own party) (scene.desks party)

private theorem quiet_standing (shared : Shared t₀ cwd root own) : Standing t₀ cwd root own (quiet t₀) :=
  ⟨⟨shared.sound, fun _ _ => .inl rfl⟩, nofun⟩

end Standing

section Steps

theorem slot_held {slot : Nat} {ws : Workspace} (found : desk[slot]?.join = some ws) : some ws ∈ desk :=
  List.mem_of_getElem? (Option.join_eq_some_iff.mp found)

theorem run_create (id : String) (keep : Bool) (desk : Desk)
    (host : (effect : Effect) → StateM FileTree effect.Reply) (t : FileTree) :
    ((Step.create id keep).plan root desk).run host t =
      let result := (Workspace.create root id keep).run host t
      ((.created result.1, desk ++ [result.1.toOption]), result.2) := by
  simp [Step.plan]

theorem shared_opened (shared : Shared t₀ cwd root own) (stands : Stands t₀ cwd root t) {party : ι}
    (owned : own party id) (keep : Bool) :
    Opened t cwd root id keep ((Workspace.create root id keep).run (answer cwd input launch) t) := by
  refine create_opened input launch stands.sound (stands_start shared.begins stands)
    (shared.component party id owned) ?_
  intro member
  exact shared_apart shared owned _ member List.prefix_rfl

private theorem toOption_some {result : Except Fault Workspace} {ws : Workspace}
    (found : result.toOption = some ws) : result = .ok ws := by
  cases result with
  | error fault => cases found
  | ok other =>
    cases found
    rfl

/-- A step opens a workspace, or does nothing since its slot is empty, or stays inside
the folder of an identifier of the party. -/
theorem step_cases (shared : Shared t₀ cwd root own) {party : ι} (holds : Holds t cwd root (own party) desk)
    (step : Step) :
    (∃ id keep, step = .create id keep) ∨
      (∃ reply, step.plan root desk = .done (reply, desk)) ∨
      ((∃ ws, some ws ∈ desk) ∧ ∃ id, own party id ∧
        Local (place cwd root id) ((step.plan root desk).run (answer cwd input launch)) ∧
        ∀ s, ((step.plan root desk).run (answer cwd input launch) s).1.2 ⊆ none :: desk) := by
  cases step with
  | create id keep => exact .inl ⟨id, keep, rfl⟩
  | write slot source =>
    right
    rw [Step.plan]
    cases found : desk[slot]?.join with
    | none => exact .inl ⟨.closed, rfl⟩
    | some ws =>
      have held := slot_held found
      obtain ⟨_, id, owned, dir⟩ := holds ws held
      obtain ⟨_, keep⟩ := ws
      subst dir
      have inside := write_source_local input launch shared.names (shared.component party id owned) keep source
      refine .inr ⟨⟨_, held⟩, id, owned, local_bind inside fun result => local_done _, fun s => ?_⟩
      rw [run_bind]
      exact List.subset_cons_self _ _
  | drop slot =>
    right
    rw [Step.plan]
    cases found : desk[slot]?.join with
    | none => exact .inl ⟨.closed, rfl⟩
    | some ws =>
      have held := slot_held found
      obtain ⟨_, id, owned, dir⟩ := holds ws held
      obtain ⟨_, keep⟩ := ws
      subst dir
      have inside := close_local input launch shared.names (shared.component party id owned) keep
      refine .inr ⟨⟨_, held⟩, id, owned, local_bind inside fun _ => local_done _, fun s => ?_⟩
      rw [run_bind]
      intro entry member
      rcases List.mem_or_eq_of_mem_set member with kept | rfl
      · exact List.mem_cons_of_mem _ kept
      · exact List.mem_cons_self

/-- What a step can change, and what is on the desk afterwards. -/
theorem step_change (shared : Shared t₀ cwd root own) (stands : Stands t₀ cwd root t) {party : ι}
    (holds : Holds t cwd root (own party) desk) (step : Step)
    (allowed : ∀ id keep, step = .create id keep → own party id) :
    Change t cwd root (own party) ((step.plan root desk).run (answer cwd input launch) t).2 ∧
      Holds ((step.plan root desk).run (answer cwd input launch) t).2 cwd root (own party)
        ((step.plan root desk).run (answer cwd input launch) t).1.2 := by
  rcases step_cases input launch shared holds step with
    ⟨id, keep, rfl⟩ | ⟨reply, idle⟩ | ⟨_, id, owned, inside, less⟩
  · have owned := allowed id keep rfl
    have opened := shared_opened input launch shared stands owned keep
    have change := opened_change opened owned
    rw [run_create]
    refine ⟨change, fun ws member => ?_⟩
    rcases List.mem_append.mp member with before | new
    · exact change_holds shared change holds ws before
    · have answered := toOption_some (List.mem_singleton.mp new).symm
      obtain ⟨rfl, _, paved, _⟩ := opened.ready ws answered
      exact ⟨paved, id, owned, rfl⟩
  · rw [idle]
    exact ⟨⟨stands.sound, fun _ => .inl rfl⟩, holds⟩
  · have change := local_change inside owned stands.sound
    refine ⟨change, fun ws member => ?_⟩
    have held : some ws ∈ desk := by simpa using less t member
    exact change_holds shared change holds ws held

end Steps

section TwoRuns

/-- The folders of all identifiers of a party are the same in both trees. -/
def SameFolders (cwd : Location) (root : String) (ids : String → Prop) (t s : FileTree) : Prop :=
  ∀ id, ids id → ∀ k, place cwd root id <+: k → t.get? k = s.get? k

private theorem agree_local {α : Type} {op : StateM FileTree α} (inside : Local (place cwd root id) op)
    (alike : Alike (place cwd root id) t s) (agree : SameFolders cwd root ids t s) :
    (op t).1 = (op s).1 ∧ SameFolders cwd root ids (op t).2 (op s).2 := by
  obtain ⟨same, below⟩ := inside.alike t s alike
  refine ⟨same, fun other owned k under => ?_⟩
  by_cases within : place cwd root id <+: k
  · exact below k within
  · rw [inside.frame t k within, inside.frame s k within]
    exact agree other owned k under

variable {party : ι}

private theorem agree_opened (shared : Shared t₀ cwd root own) (stands : Stands t₀ cwd root t)
    (stands' : Stands t₀ cwd root s) (agree : SameFolders cwd root (own party) t s) (owned : own party id)
    {keep : Bool} {result result' : Except Fault Workspace × FileTree}
    (here : Opened t cwd root id keep result) (there : Opened s cwd root id keep result') :
    result.1 = result'.1 ∧ SameFolders cwd root (own party) result.2 result'.2 := by
  have files := fun m member => (stands_files stands m member).trans (stands_files stands' m member).symm
  obtain ⟨answer, trees⟩ := opened_same here there (stands_steady (shared_steady shared) stands)
    (stands_steady (shared_steady shared) stands') files (agree id owned _ List.prefix_rfl)
  refine ⟨answer, fun other mine k below => ?_⟩
  exact trees k (fun member => shared_apart shared mine k member below) (agree other mine k below)

/-- The same step of a party gives the same in two trees that it cannot tell apart. -/
theorem step_same (shared : Shared t₀ cwd root own) (stands : Stands t₀ cwd root t)
    (stands' : Stands t₀ cwd root s) (holds : Holds t cwd root (own party) desk)
    (holds' : Holds s cwd root (own party) desk) (agree : SameFolders cwd root (own party) t s) (step : Step)
    (allowed : ∀ id keep, step = .create id keep → own party id) :
    ((step.plan root desk).run (answer cwd input launch) t).1 =
        ((step.plan root desk).run (answer cwd input launch) s).1 ∧
      SameFolders cwd root (own party) ((step.plan root desk).run (answer cwd input launch) t).2
        ((step.plan root desk).run (answer cwd input launch) s).2 := by
  rcases step_cases input launch shared holds step with
    ⟨id, keep, rfl⟩ | ⟨reply, idle⟩ | ⟨⟨ws, held⟩, id, owned, inside, _⟩
  · have owned := allowed id keep rfl
    have here := shared_opened input launch shared stands owned keep
    have there := shared_opened input launch shared stands' owned keep
    obtain ⟨same, agrees⟩ := agree_opened shared stands stands' agree owned here there
    rw [run_create, run_create]
    refine ⟨?_, agrees⟩
    dsimp only
    rw [same]
  · rw [idle]
    exact ⟨rfl, agree⟩
  · have alike := paved_alike stands.sound stands'.sound (holds ws held).1 (holds' ws held).1 (agree id owned)
    exact agree_local inside alike agree

/-- What another party does leaves the folders of a party alone. -/
theorem agree_frame (shared : Shared t₀ cwd root own) {actor : ι} (other : actor ≠ party)
    (change : Change t cwd root (own actor) after) (agree : SameFolders cwd root (own party) t s) :
    SameFolders cwd root (own party) after s := by
  intro id owned k below
  rcases change.kept k with same | ⟨member, _⟩ | ⟨taken, theirs, also⟩
  · rw [same]
    exact agree id owned k below
  · exact absurd below (shared_apart shared owned _ member)
  · rw [place_inj also below] at theirs
    exact absurd (shared.disjoint actor party id theirs owned) other

end TwoRuns

section Interleavings

variable [DecidableEq ι] {whole alone : Scene ι} {party : ι}

theorem standing_step (shared : Shared t₀ cwd root own) (standing : Standing t₀ cwd root own whole)
    (actor : ι) (step : Step) (allowed : ∀ id keep, step = .create id keep → own actor id) :
    Change whole.tree cwd root (own actor) (takeStep (answer cwd input launch) root whole actor step).2.tree ∧
      Standing t₀ cwd root own (takeStep (answer cwd input launch) root whole actor step).2 := by
  obtain ⟨change, held⟩ := step_change input launch shared standing.stands (standing.holds actor) step
    allowed
  refine ⟨change, change_stands (fun _ => shared_apart shared) standing.stands change, fun other => ?_⟩
  by_cases same : other = actor
  · subst same
    simpa [takeStep] using held
  · simpa [takeStep, same] using change_holds shared change (standing.holds other)

theorem standing_run (shared : Shared t₀ cwd root own) (standing : Standing t₀ cwd root own whole)
    (steps : List (ι × Step)) (allowed : ∀ actor id keep, (actor, .create id keep) ∈ steps → own actor id) :
    Standing t₀ cwd root own (perform (answer cwd input launch) root steps whole).2 := by
  induction steps generalizing whole with
  | nil => exact standing
  | cons first more ih =>
    obtain ⟨actor, step⟩ := first
    have next := (standing_step input launch shared standing actor step
      fun id keep same => allowed actor id keep (by simp [same])).2
    exact ih next fun other id keep member => allowed other id keep (List.mem_cons_of_mem _ member)

theorem perform_append (host : (effect : Effect) → StateM FileTree effect.Reply) (root : String)
    (steps more : List (ι × Step)) (scene : Scene ι) :
    (perform host root (steps ++ more) scene).2 = (perform host root more (perform host root steps scene).2).2 := by
  induction steps generalizing scene with
  | nil => rfl
  | cons first rest ih => exact ih (takeStep host root scene first.1 first.2).2

private theorem own_step (shared : Shared t₀ cwd root own) (standing : Standing t₀ cwd root own whole)
    (standing' : Standing t₀ cwd root own alone) (desk : whole.desks party = alone.desks party)
    (agree : SameFolders cwd root (own party) whole.tree alone.tree) (step : Step)
    (allowed : ∀ id keep, step = .create id keep → own party id) :
    (takeStep (answer cwd input launch) root whole party step).1 =
        (takeStep (answer cwd input launch) root alone party step).1 ∧
      (takeStep (answer cwd input launch) root whole party step).2.desks party =
        (takeStep (answer cwd input launch) root alone party step).2.desks party ∧
      SameFolders cwd root (own party) (takeStep (answer cwd input launch) root whole party step).2.tree
        (takeStep (answer cwd input launch) root alone party step).2.tree := by
  have holds := standing.holds party
  rw [desk] at holds
  obtain ⟨same, agrees⟩ := step_same input launch shared standing.stands standing'.stands holds
    (standing'.holds party) agree step allowed
  simp only [takeStep, desk, Function.update_self, same, true_and]
  exact agrees

/-- The run of all steps beside the run of one party's own. -/
theorem run_same (shared : Shared t₀ cwd root own) (steps : List (ι × Step))
    (allowed : ∀ actor id keep, (actor, .create id keep) ∈ steps → own actor id)
    (standing : Standing t₀ cwd root own whole) (standing' : Standing t₀ cwd root own alone)
    (desk : whole.desks party = alone.desks party) (agree : SameFolders cwd root (own party) whole.tree alone.tree) :
    partOf party (perform (answer cwd input launch) root steps whole).1 =
        (perform (answer cwd input launch) root (partOf party steps) alone).1 ∧
      SameFolders cwd root (own party) (perform (answer cwd input launch) root steps whole).2.tree
        (perform (answer cwd input launch) root (partOf party steps) alone).2.tree := by
  induction steps generalizing whole alone with
  | nil => exact ⟨rfl, agree⟩
  | cons first more ih =>
    obtain ⟨actor, step⟩ := first
    have may : ∀ id keep, step = .create id keep → own actor id :=
      fun id keep same => allowed actor id keep (by simp [same])
    have later := fun other id keep member => allowed other id keep (List.mem_cons_of_mem (actor, step) member)
    obtain ⟨change, next⟩ := standing_step input launch shared standing actor step may
    by_cases mine : actor = party
    · subst mine
      have stays : partOf actor ((actor, step) :: more) = (actor, step) :: partOf actor more :=
        List.filter_cons_of_pos (by simp)
      obtain ⟨_, next'⟩ := standing_step input launch shared standing' actor step may
      obtain ⟨reply, desks, trees⟩ := own_step input launch shared standing standing' desk agree step may
      obtain ⟨same, agrees⟩ := ih later next next' desks trees
      rw [stays, perform, perform]
      refine ⟨?_, agrees⟩
      rw [← reply, ← same]
      exact List.filter_cons_of_pos (by simp)
    · have skipped : partOf party ((actor, step) :: more) = partOf party more :=
        List.filter_cons_of_neg (by simpa using mine)
      have unread : (takeStep (answer cwd input launch) root whole actor step).2.desks party = alone.desks party := by
        rw [← desk]
        exact Function.update_of_ne (Ne.symm mine) _ _
      obtain ⟨same, agrees⟩ := ih later next standing' unread (agree_frame shared mine change agree)
      rw [skipped, perform]
      refine ⟨?_, agrees⟩
      rw [← same]
      exact List.filter_cons_of_neg (by simpa using mine)

theorem drop_frame (shared : Shared t₀ cwd root own) (standing : Standing t₀ cwd root own whole) {slot : Nat}
    {ws : Workspace} (found : (whole.desks party)[slot]? = some (some ws)) :
    ∃ id, own party id ∧ ws.dir = absolute (place cwd root id) ∧ ∀ other, other ≠ id → ∀ k,
      (takeStep (answer cwd input launch) root whole party (.drop slot)).2.tree.get? (place cwd root other ++ k) =
        whole.tree.get? (place cwd root other ++ k) := by
  obtain ⟨_, id, owned, dir⟩ := standing.holds party ws (List.mem_of_getElem? found)
  refine ⟨id, owned, dir, fun other apart k => ?_⟩
  obtain ⟨_, keep⟩ := ws
  subst dir
  have inside := close_local input launch shared.names (shared.component party id owned) keep
  have outside : ¬ place cwd root id <+: place cwd root other ++ k := by
    intro above
    exact apart (place_inj (List.prefix_append _ _) above)
  have closes : (takeStep (answer cwd input launch) root whole party (.drop slot)).2.tree =
      ((Workspace.close ⟨absolute (place cwd root id), keep⟩).run (answer cwd input launch) whole.tree).2 := by
    simp [takeStep, Step.plan, found]
  rw [closes]
  exact inside.frame whole.tree _ outside

end Interleavings

section TwoParties

variable {steps : List (Bool × Step)}

/-- The only identifier that each of two parties uses. -/
def idOf (party : Bool) : String :=
  if party then "a" else "b"

/-- The identifier of the workspace that a step opens. -/
def Step.opens? : Step → Option String
  | .create id _ => some id
  | _ => none

/-- Neither party opens a workspace with the identifier of the other. -/
def Faithful (steps : List (Bool × Step)) : Prop :=
  ∀ entry ∈ steps, entry.2.opens? = none ∨ entry.2.opens? = some (idOf entry.1)

instance : DecidablePred Faithful :=
  fun steps => inferInstanceAs (Decidable (∀ entry ∈ steps, _))

private theorem faithful_uses (faithful : Faithful steps) {party : Bool} (used : Uses steps party id) :
    id = idOf party := by
  obtain ⟨keep, member⟩ := used
  rcases faithful _ member with none | own
  · cases none
  · exact Option.some.inj own

private theorem faithful_partitioned (sound : Sound t) (root : String) (faithful : Faithful steps) :
    Partitioned t [] root (Uses steps) := by
  have top : start [] root = [] := by simp [start]
  refine ⟨sound, by rw [top]; rfl, by simp [top], fun party id used => ?_, fun party other id used also => ?_⟩
  · rw [faithful_uses faithful used]
    cases party <;> decide
  · have same := (faithful_uses faithful used).symm.trans (faithful_uses faithful also)
    revert same
    cases party <;> cases other <;> decide

/-- The steps of two parties alternate; one drops its workspace while the other goes on. -/
def alternating : List (Bool × Step) :=
  [(true, .create "a" false), (false, .create "b" true), (true, .write 0 "x"), (false, .write 0 "y"),
    (true, .drop 0), (false, .write 0 "z")]

/-- The path of the root goes back up here, but not through a workspace. -/
theorem alternating_shared : Shared empty [] "x/../w" (Uses alternating) where
  toPartitioned := faithful_partitioned empty_sound _ (by decide)
  path := by
    refine .inr ⟨steady_clear (empty_clear _), fun party id used => ?_⟩
    have faithful : Faithful alternating := by decide
    rw [faithful_uses faithful used]
    cases party <;> decide

/-- One party opens a workspace and drops it, then the other opens its own. -/
def following : List (Bool × Step) :=
  [(true, .create "a" false), (true, .drop 0), (false, .create "b" true)]

/-- Two parties open a workspace each. -/
def meeting : List (Bool × Step) :=
  [(false, .create "b" true), (true, .create "a" true)]

/-- A file, and no folder beside it. -/
def lonelyFile : FileTree :=
  (empty.put ["w"] .folder).put ["w", "f"] (.file [])

private theorem lonely_file_sound : Sound lonelyFile := by
  have first : Sound (empty.put ["w"] .folder) := sound_put (l := []) empty_sound rfl (.inl rfl)
  exact sound_put (l := ["w"]) first (by decide) (.inr (by decide))

end TwoParties

end Tabscript.WorkspaceIsolation
