import Tabscript.Proofs.FolderLocality
import Tabscript.Proofs.FolderMaking
import Tabscript.Workspace

/-! Workspaces on a tree of files: what opening one does to the tree, and that
everything done with an open one stays inside its folder. -/
namespace Tabscript.WorkspaceFolders
open FileTree TreeLookups PathNames FolderPaths FolderMaking FolderLocality HostTranscript

variable {t after : FileTree} {cwd : Location} {root id : String} {keep : Bool} (input : List UInt8)
  (launch : Invocation → StateM FileTree Launch)

theorem source_component : IsComponent "main.cpp" := by decide

/-- The answer to opening a workspace. -/
def opened (t : FileTree) (cwd : Location) (root id : String) (keep : Bool) : Except Fault Workspace :=
  match refusal t cwd root id with
  | some e => .error (.workspace ("creating " ++ Path.join root id) e.message)
  | none =>
    if pathTooLong (absolute (place cwd root id)) then
      .error (.workspace ("resolving " ++ Path.join root id) IoFault.nameTooLong.message)
    else .ok ⟨absolute (place cwd root id), keep⟩

/-- What opening a workspace does to a tree. -/
structure Opened (t : FileTree) (cwd : Location) (root id : String) (keep : Bool)
    (result : Except Fault Workspace × FileTree) : Prop where
  sound : Sound result.2
  gains : Gains (place cwd root id :: ground cwd root) t result.2
  ready : ∀ ws, result.1 = .ok ws → ws = ⟨absolute (place cwd root id), keep⟩ ∧
    Clear t (ground cwd root) ∧ Paved result.2 (ground cwd root) ∧
    result.2.get? (place cwd root id) = some .folder
  reply : Steady t (ground cwd root) → result.1 = opened t cwd root id keep
  seat : Steady t (ground cwd root) → result.2.get? (place cwd root id) =
    if refusal t cwd root id = none then some .folder else t.get? (place cwd root id)

theorem made_resolves {result : Except IoFault Unit × FileTree} (made : Made t cwd root id result)
    (component : IsComponent id) (done : result.1 = .ok ()) :
    result.2.resolve cwd (Path.join root id) =
      if pathTooLong (absolute (place cwd root id)) then .error .nameTooLong
      else .ok (absolute (place cwd root id)) := by
  obtain ⟨plain, short, clear, fits⟩ := free_path (made_free made done)
  obtain ⟨paved, there⟩ := made.done done
  have led := paved_verdict paved
  rw [obstacle_congr fun m _ => gains_files made.gains m, clear] at led
  have found : result.2.follow (start cwd root) (Path.pieces root ++ [id]) = .ok (place cwd root id) := by
    rw [place] at there
    rw [follow_through led, follow_name (component_down component), fits, there]
    rfl
  rw [resolve, locate, plain, short, join_filled component, start_join cwd component, steps_join component, found]
  rfl

private theorem create_unmade {e : IoFault} (failed : t.makeFolders cwd (Path.join root id) = (.error e, after)) :
    (Workspace.create root id keep).run (answer cwd input launch) t =
      (.error (.workspace ("creating " ++ Path.join root id) e.message), after) := by
  simp [Workspace.create, failed]

private theorem create_made (made : t.makeFolders cwd (Path.join root id) = (.ok (), after)) :
    (Workspace.create root id keep).run (answer cwd input launch) t =
      (match after.resolve cwd (Path.join root id) with
        | .error e => .error (.workspace ("resolving " ++ Path.join root id) e.message)
        | .ok path => .ok ⟨path, keep⟩, after) := by
  simp only [Workspace.create, run_bind, run_make, made, run_resolve]
  cases after.resolve cwd (Path.join root id) <;> simp

/-- Opening a workspace makes its folder, and the way to it as far as it is missing. -/
theorem create_opened (sound : Sound t) (here : t.get? (start cwd root) = some .folder)
    (component : IsComponent id) (apart : place cwd root id ∉ ground cwd root) :
    Opened t cwd root id keep ((Workspace.create root id keep).run (answer cwd input launch) t) := by
  have made := make_folders_made sound here component apart
  cases result : t.makeFolders cwd (Path.join root id) with
  | mk reply after =>
    rw [result] at made
    cases reply with
    | error e =>
      have refused : Steady t (ground cwd root) → refusal t cwd root id = some e :=
        fun steady => made_refused made rfl steady
      rw [create_unmade input launch result]
      refine ⟨made.sound, made.gains, nofun, fun steady => ?_, fun steady => ?_⟩
      · rw [opened, refused steady]
      · rw [refused steady]
        exact made.failed nofun
    | ok _ =>
      have free := made_free made rfl
      have resolved := made_resolves made component rfl
      dsimp only at resolved
      rw [create_made input launch result, resolved]
      refine ⟨made.sound, made.gains, fun ws answered => ?_, fun _ => ?_, fun _ => ?_⟩
      · refine ⟨?_, made.clear rfl, made.done rfl⟩
        cases long : pathTooLong (absolute (place cwd root id)) with
        | true =>
          simp [long] at answered
        | false =>
          simpa [long, eq_comm] using answered
      · rw [opened, free]
        cases pathTooLong (absolute (place cwd root id)) <;> rfl
      · rw [if_pos free]
        exact (made.done rfl).2

section Changes

variable {t₀ : FileTree} {ids : String → Prop}

theorem place_inj {other : String} {k : Location} (above : place cwd root id <+: k)
    (also : place cwd root other <+: k) : id = other := by
  have same : place cwd root id = place cwd root other :=
    List.prefix_iff_eq_take.mp above |>.trans (by
      rw [List.prefix_iff_eq_take.mp also]
      simp [place])
  simpa [place] using same

/-- A tree that the use of workspaces has led to: on the way to the root nothing has
changed but that missing folders may be there now. -/
structure Stands (t₀ : FileTree) (cwd : Location) (root : String) (t : FileTree) : Prop where
  sound : Sound t
  grown : ∀ m ∈ ground cwd root, t.get? m = t₀.get? m ∨ (t₀.get? m = none ∧ t.get? m = some .folder)

/-- What the workspaces of some identifiers can change: missing folders on the way to the
root appear, and the folders of the identifiers become something else. -/
structure Change (t : FileTree) (cwd : Location) (root : String) (ids : String → Prop) (after : FileTree) :
    Prop where
  sound : Sound after
  kept : ∀ k, after.get? k = t.get? k ∨
    (k ∈ ground cwd root ∧ t.get? k = none ∧ after.get? k = some .folder) ∨
    ∃ id, ids id ∧ place cwd root id <+: k

theorem stands_files (stands : Stands t₀ cwd root t) (m : Location) (member : m ∈ ground cwd root) :
    holdsFile t m = holdsFile t₀ m := by
  rcases stands.grown m member with same | ⟨missing, made⟩
  · rw [holdsFile, holdsFile, same]
  · rw [no_file_in_folder made, no_file_missing missing]

theorem stands_start (begins : t₀.get? (start cwd root) = some .folder) (stands : Stands t₀ cwd root t) :
    t.get? (start cwd root) = some .folder := by
  rcases stands.grown _ (way_start _ _) with same | ⟨_, made⟩
  · rw [same, begins]
  · exact made

theorem stands_steady (steady : Steady t₀ (ground cwd root)) (stands : Stands t₀ cwd root t) :
    Steady t (ground cwd root) := by
  refine List.Pairwise.imp_of_mem ?_ steady
  intro m n first second behind missing
  rw [stands_files stands _ second]
  apply behind
  rcases stands.grown m first with same | ⟨gap, _⟩
  · rw [← same, missing]
  · exact gap

theorem change_trans {mid : FileTree} (first : Change t cwd root ids mid) (second : Change mid cwd root ids after) :
    Change t cwd root ids after := by
  refine ⟨second.sound, fun k => ?_⟩
  rcases second.kept k with same | ⟨member, gap, made⟩ | below
  · rw [same]
    exact first.kept k
  · rcases first.kept k with also | ⟨_, _, there⟩ | below
    · exact .inr (.inl ⟨member, also ▸ gap, made⟩)
    · rw [gap] at there
      cases there
    · exact .inr (.inr below)
  · exact .inr (.inr below)

theorem change_stands (apart : ∀ id, ids id → ∀ m ∈ ground cwd root, ¬ place cwd root id <+: m)
    (stands : Stands t₀ cwd root t) (change : Change t cwd root ids after) : Stands t₀ cwd root after := by
  refine ⟨change.sound, fun m member => ?_⟩
  rcases change.kept m with same | ⟨_, gap, made⟩ | ⟨id, owned, below⟩
  · rw [same]
    exact stands.grown m member
  · rcases stands.grown m member with same | ⟨missing, _⟩
    · exact .inr ⟨same ▸ gap, made⟩
    · exact .inr ⟨missing, made⟩
  · exact absurd below (apart id owned m member)

theorem change_paved (apart : ∀ id, ids id → ∀ m ∈ ground cwd root, ¬ place cwd root id <+: m)
    (change : Change t cwd root ids after) (paved : Paved t (ground cwd root)) :
    Paved after (ground cwd root) := by
  intro m member
  rcases change.kept m with same | ⟨_, _, made⟩ | ⟨id, owned, below⟩
  · rw [same]
    exact paved m member
  · exact made
  · exact absurd below (apart id owned m member)

theorem local_change {α : Type} {op : StateM FileTree α} (inside : Local (place cwd root id) op)
    (owned : ids id) (sound : Sound t) : Change t cwd root ids (op t).2 := by
  refine ⟨inside.sound t sound, fun k => ?_⟩
  by_cases below : place cwd root id <+: k
  · exact .inr (.inr ⟨id, owned, below⟩)
  · exact .inl (inside.frame t k below)

theorem opened_change {keep : Bool} {result : Except Fault Workspace × FileTree}
    (opened : Opened t cwd root id keep result) (owned : ids id) : Change t cwd root ids result.2 := by
  refine ⟨opened.sound, fun k => ?_⟩
  rcases opened.gains k with same | ⟨member, missing, made⟩
  · exact .inl same
  · rcases List.mem_cons.mp member with rfl | way
    · exact .inr (.inr ⟨id, owned, List.prefix_rfl⟩)
    · exact .inr (.inl ⟨way, missing, made⟩)

/-- Opening a workspace gives the same answer in two trees in which the same files stand in
its way, and leaves no difference between them where there was none. -/
theorem opened_same {s : FileTree} {keep : Bool} {result result' : Except Fault Workspace × FileTree}
    (here : Opened t cwd root id keep result) (there : Opened s cwd root id keep result')
    (steady : Steady t (ground cwd root)) (steady' : Steady s (ground cwd root))
    (files : ∀ m ∈ ground cwd root, holdsFile t m = holdsFile s m)
    (seat : t.get? (place cwd root id) = s.get? (place cwd root id)) :
    result.1 = result'.1 ∧
      ∀ k, k ∉ ground cwd root → t.get? k = s.get? k → result.2.get? k = result'.2.get? k := by
  have refused : refusal t cwd root id = refusal s cwd root id := refusal_congr files seat
  refine ⟨?_, fun k off same => ?_⟩
  · rw [here.reply steady, there.reply steady', opened, opened, refused]
  · by_cases top : k = place cwd root id
    · rw [top, here.seat steady, there.seat steady', refused, seat]
    · have out : k ∉ place cwd root id :: ground cwd root := by
        rw [List.mem_cons, not_or]
        exact ⟨top, off⟩
      rw [gains_elsewhere here.gains out, gains_elsewhere there.gains out, same]

/-- With the way to the root in place, only what is below a workspace can tell two trees
apart from inside it. -/
theorem paved_alike {s : FileTree} (here : Sound t) (there : Sound s) (paved : Paved t (ground cwd root))
    (paved' : Paved s (ground cwd root)) (below : ∀ k, place cwd root id <+: k → t.get? k = s.get? k) :
    Alike (place cwd root id) t s := by
  refine ⟨fun m above => ?_, below⟩
  rcases List.prefix_concat_iff.mp above with rfl | higher
  · exact below _ List.prefix_rfl
  · have last := reach_in_way (start cwd root) (Path.pieces root)
    have folder : ∀ tree, Sound tree → Paved tree (ground cwd root) → tree.get? m = some .folder := by
      intro tree sound way
      by_cases top : m = reach (start cwd root) (Path.pieces root)
      · rw [top]
        exact way _ last
      · exact folder_above sound higher (by simp [way _ last]) top
    rw [folder t here paved, folder s there paved']

end Changes

section Inside

variable (names : ∀ name ∈ start cwd root, IsComponent name)

include names

theorem root_components : ∀ name ∈ reach (start cwd root) (Path.pieces root), IsComponent name :=
  reach_components names fun _ member moves => piece_component member moves

variable (component : IsComponent id)

include component

theorem place_components : ∀ name ∈ place cwd root id, IsComponent name :=
  entry_components (root_components names) component

theorem write_source_local (keep : Bool) (source : String) :
    Local (place cwd root id)
      ((Workspace.writeSource ⟨absolute (place cwd root id), keep⟩ source).run (answer cwd input launch)) := by
  have written : Local (place cwd root id)
      ((Plan.writeFile (Path.join (absolute (place cwd root id)) "main.cpp") (Text.encode source)).run
        (answer cwd input launch)) := by
    rw [run_write]
    exact write_local (place_components names component) source_component cwd (Text.encode source)
  rw [Workspace.writeSource, Workspace.sourcePath]
  refine local_bind written fun reply => ?_
  cases reply with
  | error e => exact local_done _
  | ok _ => exact local_done _

theorem close_local (keep : Bool) :
    Local (place cwd root id)
      ((Workspace.close ⟨absolute (place cwd root id), keep⟩).run (answer cwd input launch)) := by
  cases keep with
  | true => exact local_done _
  | false => exact remove_local (root_components names) component cwd

end Inside

end Tabscript.WorkspaceFolders
