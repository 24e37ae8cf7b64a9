import Tabscript.Proofs.RequestFiles

/-! What a sequence of requests leaves behind. A request whose script is rejected changes
nothing at all; every other one changes, outside the way to the root of the workspaces,
only the folder of its own identifier, and that folder is gone afterwards or holds
exactly what is to be kept. So no request notices the ones before it. -/
namespace Tabscript.WorkspaceHygiene
open FileTree TreeLookups PathNames FolderPaths FolderMaking FolderLocality WorkspaceFolders HostTranscript
  RequestStages RequestFiles

variable {config : Config} {cwd : Location} (input : List UInt8) {r : Request} {t t₀ : FileTree} {root : String}

/-- Requests that can be given to an engine in a tree: the path of the root starts in a
folder with proper names, and the identifiers are single components, all different, of
which nothing is there yet, neither below the root nor on the way to it. -/
structure Fresh (t : FileTree) (cwd : Location) (root : String) (requests : List Request) : Prop where
  sound : Sound t
  begins : t.get? (start cwd root) = some .folder
  names : ∀ name ∈ start cwd root, IsComponent name
  component : ∀ r ∈ requests, IsComponent r.id
  distinct : (requests.map Request.id).Nodup
  absent : ∀ r ∈ requests, t.get? (place cwd root r.id) = none
  apart : ∀ r ∈ requests, ∀ m ∈ ground cwd root, ¬ place cwd root r.id <+: m

/-- The files after some requests, one after the other. -/
def treeAfter (config : Config) (cwd : Location) (input : List UInt8) (earlier : List Request) (t : FileTree) :
    FileTree :=
  earlier.foldl (fun t r => (r.serve config cwd input t).2) t

section OneRequest

/-- The report about a request that has come to its end. -/
def reportOf (driven : Course × Except Fault RunOutput) : Report :=
  ⟨driven.1.state.finish driven.2, driven.1.entered, driven.2⟩

private theorem serve_driven (t : FileTree) :
    r.serve config cwd input t =
      let driven := (Pipeline.drive config r.id r.script ⟨.idle, []⟩).run (r.host config cwd input) t
      (reportOf driven.1, driven.2) := by
  simp [Request.serve, Pipeline.run, reportOf]

variable (config cwd) in
private theorem rejected_serve {fault : Fault} (rejected : Script.translate r.script = .error fault) :
    ∃ report, ∀ t, r.serve config cwd input t = (report, t) := by
  obtain ⟨after, stopped⟩ := drive_rejected config r.id rejected ⟨.idle, []⟩
  refine ⟨reportOf (after, .error fault), fun t => ?_⟩
  rw [serve_driven, stopped]
  rfl

variable (config cwd) in
private theorem translated_serve {statements : List Statement}
    (translated : Script.translate r.script = .ok statements) :
    ∃ course, ∀ t,
      let opened := (Workspace.create config.workspaceRoot r.id config.keepWorkspaces).run (r.host config cwd input) t
      (∀ fault, opened.1 = .error fault →
        r.serve config cwd input t = (reportOf (course, .error fault), opened.2)) ∧
      ∀ ws, opened.1 = .ok ws →
        let ended := (complete config ws (Program.assemble statements).source course).run
          (r.host config cwd input) opened.2
        r.serve config cwd input t = (reportOf ended.1, ended.2) := by
  obtain ⟨course, driven⟩ := drive_translated config r.id translated ⟨.idle, []⟩
  refine ⟨course, fun t => ⟨fun fault failed => ?_, fun ws ready => ?_⟩⟩
  · rw [serve_driven, driven, run_bind, failed]
    rfl
  · rw [serve_driven, driven, run_bind, ready]

variable (begins : t.get? (start cwd config.workspaceRoot) = some .folder)
  (names : ∀ name ∈ start cwd config.workspaceRoot, IsComponent name) (component : IsComponent r.id)
  (apart : ∀ m ∈ ground cwd config.workspaceRoot, ¬ place cwd config.workspaceRoot r.id <+: m)

include begins component apart

private theorem request_opened (sound : Sound t) :
    Opened t cwd config.workspaceRoot r.id config.keepWorkspaces
      ((Workspace.create config.workspaceRoot r.id config.keepWorkspaces).run (r.host config cwd input) t) :=
  create_opened input (r.launch config cwd) sound begins component fun member => apart _ member List.prefix_rfl

/-- A request whose file operations succeed opens its workspace and writes the program. -/
private theorem smooth_opened (sound : Sound t) {statements : List Statement}
    (translated : Script.translate r.script = .ok statements)
    (smooth : Smooth (r.host config cwd input) (Pipeline.run config r.id r.script) t) :
    let opened := (Workspace.create config.workspaceRoot r.id config.keepWorkspaces).run (r.host config cwd input) t
    opened.1 = .ok ⟨absolute (place cwd config.workspaceRoot r.id), config.keepWorkspaces⟩ ∧
      ∃ path, ((Workspace.writeSource ⟨absolute (place cwd config.workspaceRoot r.id), config.keepWorkspaces⟩
        (Program.assemble statements).source).run (r.host config cwd input) opened.2).1 = .ok path := by
  intro opened
  have opens : Opened t cwd config.workspaceRoot r.id config.keepWorkspaces opened :=
    request_opened input begins component apart sound
  obtain ⟨course, driven⟩ := drive_translated config r.id translated ⟨.idle, []⟩
  rw [Pipeline.run] at smooth
  have drives := (smooth_bind smooth).1
  rw [driven] at drives
  obtain ⟨creates, rest⟩ := smooth_bind drives
  obtain ⟨ws, ready⟩ := smooth_create creates
  obtain ⟨rfl, _⟩ := opens.ready ws ready
  rw [ready] at rest
  dsimp only at rest
  rw [complete] at rest
  have compiles := (smooth_bind rest).1
  rw [Build.compile] at compiles
  exact ⟨ready, smooth_write (smooth_bind compiles).1⟩

include names

/-- A request touches only the way to the root and the folder of its identifier. -/
theorem request_change (sound : Sound t) :
    Change t cwd config.workspaceRoot (r.id = ·) (r.serve config cwd input t).2 := by
  cases translated : Script.translate r.script with
  | error fault =>
    obtain ⟨report, served⟩ := rejected_serve config cwd input translated
    rw [served]
    exact ⟨sound, fun _ => .inl rfl⟩
  | ok statements =>
    obtain ⟨course, served⟩ := translated_serve config cwd input translated
    have opened := request_opened input begins component apart sound
    have change : Change t cwd config.workspaceRoot (r.id = ·) _ := opened_change opened rfl
    obtain ⟨failed, ready⟩ := served t
    generalize (Workspace.create config.workspaceRoot r.id config.keepWorkspaces).run (r.host config cwd input) t =
      result at opened change failed ready
    obtain ⟨answered, after⟩ := result
    cases answered with
    | error fault =>
      rw [failed fault rfl]
      exact change
    | ok ws =>
      obtain ⟨rfl, _⟩ := opened.ready ws rfl
      rw [ready _ rfl]
      have inside := complete_local config input r names component config.keepWorkspaces
        (Program.assemble statements).source course
      have rest : Change after cwd config.workspaceRoot (r.id = ·) _ := local_change inside rfl opened.sound
      dsimp only at change ⊢
      exact change_trans change rest

/-- The files after a request whose file operations succeed. -/
theorem request_files (sound : Sound t) (absent : t.get? (place cwd config.workspaceRoot r.id) = none)
    {statements : List Statement} (translated : Script.translate r.script = .ok statements)
    (smooth : Smooth (r.host config cwd input) (Pipeline.run config r.id r.script) t) :
    Paved (r.serve config cwd input t).2 (ground cwd config.workspaceRoot) ∧
      ∀ k, (r.serve config cwd input t).2.get? (place cwd config.workspaceRoot r.id ++ k) =
        if config.keepWorkspaces then
          kept config r (place cwd config.workspaceRoot r.id) (Program.assemble statements).source k
        else none := by
  obtain ⟨course, served⟩ := translated_serve config cwd input translated
  obtain ⟨ready, path, written⟩ := smooth_opened input begins component apart sound translated smooth
  have opened := request_opened input begins component apart sound
  obtain ⟨_, _, paved, here⟩ := opened.ready _ ready
  have ended := (served t).2 _ ready
  have gains := opened.gains
  generalize (Workspace.create config.workspaceRoot r.id config.keepWorkspaces).run (r.host config cwd input) t =
    result at ready written opened paved here ended gains
  obtain ⟨answered, mid⟩ := result
  dsimp only at *
  have bare : ∀ k, k ≠ [] → mid.get? (place cwd config.workspaceRoot r.id ++ k) = none := by
    intro k deeper
    have out : place cwd config.workspaceRoot r.id ++ k ∉
        place cwd config.workspaceRoot r.id :: ground cwd config.workspaceRoot := by
      rw [List.mem_cons, not_or]
      exact ⟨by simp [deeper], fun member => apart _ member (List.prefix_append _ _)⟩
    rw [gains_elsewhere gains out]
    exact nothing_below sound (by simp [absent]) (List.prefix_append _ _) (by simp [deeper])
  have room : mid.get? (place cwd config.workspaceRoot r.id ++ ["main"]) ≠ some .folder := by
    rw [bare _ (by simp)]
    nofun
  have final := complete_tree names component course room here written
  have entry : place cwd config.workspaceRoot r.id ≠ [] := by simp [place]
  rw [ended, final]
  cases config.keepWorkspaces with
  | true =>
    refine ⟨fun m member => ?_, fun k => filled_inside here bare k⟩
    exact (filled_elsewhere (outside_entry (apart m member))).trans (paved m member)
  | false =>
    refine ⟨fun m member => ?_, fun k => ?_⟩
    · have outside := outside_entry (apart m member)
      simp [entry, apart m member, filled_elsewhere outside, paved m member]
    · simp [entry]

end OneRequest

section Histories

variable {requests earlier : List Request}

theorem history_stands (earlier : List Request)
    (begins : t₀.get? (start cwd config.workspaceRoot) = some .folder)
    (names : ∀ name ∈ start cwd config.workspaceRoot, IsComponent name)
    (component : ∀ r ∈ earlier, IsComponent r.id)
    (apart : ∀ r ∈ earlier, ∀ m ∈ ground cwd config.workspaceRoot, ¬ place cwd config.workspaceRoot r.id <+: m)
    (stands : Stands t₀ cwd config.workspaceRoot t) :
    Stands t₀ cwd config.workspaceRoot (treeAfter config cwd input earlier t) ∧
      ∀ k, k ∉ ground cwd config.workspaceRoot →
        (∀ r ∈ earlier, ¬ place cwd config.workspaceRoot r.id <+: k) →
        (treeAfter config cwd input earlier t).get? k = t.get? k := by
  induction earlier generalizing t with
  | nil => exact ⟨stands, fun _ _ _ => rfl⟩
  | cons r more ih =>
    have way := apart r (by simp)
    have change := request_change input (stands_start begins stands) names (component r (by simp)) way stands.sound
    have next := change_stands (fun id same => same ▸ way) stands change
    obtain ⟨last, same⟩ := ih (fun other member => component other (by simp [member]))
      (fun other member => apart other (by simp [member])) next
    refine ⟨last, fun k off others => ?_⟩
    refine (same k off fun other member => others other (by simp [member])).trans ?_
    rcases change.kept k with kept | ⟨member, _⟩ | ⟨id, rfl, below⟩
    · exact kept
    · exact absurd member off
    · exact absurd below (others r (by simp))

/-- A request does not notice what other requests have done before. -/
theorem report_same (begins : t₀.get? (start cwd config.workspaceRoot) = some .folder)
    (names : ∀ name ∈ start cwd config.workspaceRoot, IsComponent name) (component : IsComponent r.id)
    (apart : ∀ m ∈ ground cwd config.workspaceRoot, ¬ place cwd config.workspaceRoot r.id <+: m)
    (sound : Sound t₀) (stands : Stands t₀ cwd config.workspaceRoot t)
    (inside : ∀ k, place cwd config.workspaceRoot r.id <+: k → t.get? k = t₀.get? k)
    (smooth : Smooth (r.host config cwd input) (Pipeline.run config r.id r.script) t) :
    (r.serve config cwd input t).1 = (r.serve config cwd input t₀).1 := by
  cases translated : Script.translate r.script with
  | error fault =>
    obtain ⟨report, served⟩ := rejected_serve config cwd input translated
    rw [served, served]
  | ok statements =>
    have start_here := stands_start begins stands
    obtain ⟨course, served⟩ := translated_serve config cwd input translated
    have ready := (smooth_opened input start_here component apart stands.sound translated smooth).1
    have here := request_opened input start_here component apart stands.sound
    have there := request_opened input begins component apart sound
    obtain ⟨_, clear, paved, _⟩ := here.ready _ ready
    -- What stands in the way is the same in both trees, so the workspace opens in both.
    have clear₀ : Clear t₀ (ground cwd config.workspaceRoot) := by
      intro m member
      rw [← stands_files stands m member]
      exact clear m member
    obtain ⟨same, trees⟩ := opened_same here there (steady_clear clear) (steady_clear clear₀)
      (fun m member => stands_files stands m member) (inside _ List.prefix_rfl)
    have ready₀ := same.symm.trans ready
    obtain ⟨_, _, paved₀, _⟩ := there.ready _ ready₀
    have alike := paved_alike here.sound there.sound paved paved₀ fun k under =>
      trees k (fun member => apart k member under) (inside k under)
    have ended := ((complete_local config input r names component config.keepWorkspaces
      (Program.assemble statements).source course).alike _ _ alike).1
    rw [(served t).2 _ ready, (served t₀).2 _ ready₀, ended]

private theorem plain_entries_off (plain : ".." ∉ Path.pieces root) (name : String) (k : Location) :
    reach (start cwd root) (Path.pieces root) ++ name :: k ∉ ground cwd root := by
  intro member
  have short := (way_below plain member).length_le
  rw [List.length_append, List.length_cons] at short
  omega

private theorem ids_differ {later : List Request} (distinct : ((earlier ++ r :: later).map Request.id).Nodup)
    {e : Request} (member : e ∈ earlier) : e.id ≠ r.id := by
  rw [List.map_append, List.map_cons] at distinct
  exact (List.nodup_append.mp distinct).2.2 _ (List.mem_map_of_mem member) _ List.mem_cons_self

/-- Requests come and go one after the other, with fresh identifiers and whatever their
processes do; look at any one of them whose file operations succeed. Its report is the
same as if it were the only one. If its script is rejected, it leaves the files exactly
as they were. Otherwise the way to the root is there afterwards, and all else is as it
was before, if workspaces are not kept; if they are, there is one more folder, with the
assembled program and the binary that the compiler left, if any. Folders of earlier
requests never change. Only a root whose path goes back up has entries on its own way. -/
theorem requests_leave_only_what_is_kept (config : Config) (cwd : Location) (input : List UInt8) (t : FileTree)
    (earlier : List Request) (r : Request) (later : List Request)
    (fresh : Fresh t cwd config.workspaceRoot (earlier ++ r :: later))
    (smooth : Smooth (r.host config cwd input) (Pipeline.run config r.id r.script)
      (treeAfter config cwd input earlier t)) :
    let root := config.workspaceRoot
    let before := treeAfter config cwd input earlier t
    let after := treeAfter config cwd input (earlier ++ [r]) t
    (r.serve config cwd input before).1 = (r.serve config cwd input t).1 ∧
      (∀ fault, Script.translate r.script = .error fault → after = before) ∧
      (∀ statements, Script.translate r.script = .ok statements →
        (∀ m ∈ ground cwd root, after.get? m = some .folder) ∧
        (config.keepWorkspaces = false → ∀ k, k ∉ ground cwd root → after.get? k = before.get? k) ∧
        (config.keepWorkspaces = true →
          (∀ k, k ∉ ground cwd root → ¬ place cwd root r.id <+: k → after.get? k = before.get? k) ∧
          ∀ k, before.get? (place cwd root r.id ++ k) = none ∧ after.get? (place cwd root r.id ++ k) =
            kept config r (place cwd root r.id) (Program.assemble statements).source k)) ∧
      (∀ e ∈ earlier, ∀ k, after.get? (place cwd root e.id ++ k) = before.get? (place cwd root e.id ++ k)) ∧
      (".." ∉ Path.pieces root →
        ∀ name k, reach (start cwd root) (Path.pieces root) ++ name :: k ∉ ground cwd root) := by
  intro root before after
  have served : after = (r.serve config cwd input before).2 := List.foldl_concat _ _ _ _
  have component := fresh.component r (by simp)
  have apart := fresh.apart r (by simp)
  obtain ⟨stands, others⟩ := history_stands input earlier fresh.begins fresh.names
    (fun e member => fresh.component e (by simp [member])) (fun e member => fresh.apart e (by simp [member]))
    ⟨fresh.sound, fun _ _ => .inl rfl⟩
  have begins := stands_start fresh.begins stands
  have inside : ∀ k, place cwd root r.id <+: k → before.get? k = t.get? k := by
    intro k under
    refine others k (fun member => apart k member under) fun e member also => ?_
    exact ids_differ fresh.distinct member (place_inj also under)
  have absent : before.get? (place cwd root r.id) = none :=
    (inside _ List.prefix_rfl).trans (fresh.absent r (by simp))
  have bare : ∀ k, place cwd root r.id <+: k → before.get? k = none := by
    intro k under
    by_cases top : place cwd root r.id = k
    · exact top ▸ absent
    · exact nothing_below stands.sound (by simp [absent]) under top
  have change := request_change input begins fresh.names component apart stands.sound
  have off : ∀ k, k ∉ ground cwd root → ¬ place cwd root r.id <+: k → after.get? k = before.get? k := by
    intro k away outside
    rw [served]
    rcases change.kept k with same | ⟨member, _⟩ | ⟨id, rfl, below⟩
    · exact same
    · exact absurd member away
    · exact absurd below outside
  refine ⟨report_same input fresh.begins fresh.names component apart fresh.sound stands inside smooth, ?_, ?_, ?_,
    plain_entries_off⟩
  · intro fault rejected
    obtain ⟨report, still⟩ := rejected_serve config cwd input rejected
    rw [served, still]
  · intro statements translated
    obtain ⟨paved, files⟩ :=
      request_files input begins fresh.names component apart stands.sound absent translated smooth
    rw [← served] at paved files
    refine ⟨paved, fun gone k away => ?_, fun stays => ⟨off, fun k => ⟨bare _ (List.prefix_append _ _), ?_⟩⟩⟩
    · by_cases under : place cwd root r.id <+: k
      · obtain ⟨rest, rfl⟩ := under
        rw [bare _ (List.prefix_append _ _), files, gone]
        rfl
      · exact off k away under
    · rw [files, stays]
      rfl
  · intro e member k
    refine off _ (fun on => ?_) fun below => ?_
    · exact fresh.apart e (by simp [member]) _ on (List.prefix_append _ _)
    · exact ids_differ fresh.distinct member (place_inj (List.prefix_append _ _) below)

end Histories

section Climbing

def rootedAt (root : String) (keep : Bool) : Config :=
  { Config.default "/tmp" with workspaceRoot := root, keepWorkspaces := keep }

/-- A request whose processes all end in the given way. -/
def uniform (id : String) (ending : Launch) (binary : Option (List UInt8)) : Request :=
  ⟨id, "describe()", fun _ => ending, fun _ => binary⟩

def good : Launch := .ended [[104, 105]] [] ⟨some 0, none⟩

/-- A request after one whose compiler never ended, below a root whose path goes up. -/
theorem second_request_leaves_only_what_is_kept :
    let config := rootedAt "x/../w" true
    let stuck := uniform "a" .overran none
    let next := uniform "b" good (some [127])
    let before := treeAfter config [] [] [stuck] empty
    let after := treeAfter config [] [] [stuck, next] empty
    Fresh empty [] config.workspaceRoot [stuck, next] ∧
      Smooth (next.host config [] []) (Pipeline.run config next.id next.script) before ∧
      (next.serve config [] [] before).1 = (next.serve config [] [] empty).1 ∧
      (∀ k, after.get? (["w", "b"] ++ k) =
        kept config next ["w", "b"] (Program.assemble [⟨1, "describe();"⟩]).source k) ∧
      ∀ k, after.get? (["w", "a"] ++ k) = before.get? (["w", "a"] ++ k) := by
  intro config stuck next before after
  have fresh : Fresh empty [] config.workspaceRoot [stuck, next] :=
    ⟨empty_sound, by decide, by decide, by decide, by decide, by decide, by decide⟩
  have smooth : Smooth (next.host config [] []) (Pipeline.run config next.id next.script) before := by
    decide +kernel
  obtain ⟨report, _, files, earlier, _⟩ :=
    requests_leave_only_what_is_kept config [] [] empty [stuck] next [] fresh smooth
  have translated : Script.translate next.script = .ok [⟨1, "describe();"⟩] := by decide +kernel
  have inside := fun k => (((files _ translated).2.2 rfl).2 k).2
  have others := earlier stuck (by simp)
  have first : place [] config.workspaceRoot stuck.id = ["w", "a"] := by decide
  have second : place [] config.workspaceRoot next.id = ["w", "b"] := by decide
  rw [first] at others
  rw [second] at inside
  exact ⟨fresh, smooth, report, inside, others⟩

/-- A root whose path goes down and up again gains the folder that the path leads through,
also where no workspace is kept. -/
theorem climbing_root_gains_an_entry :
    let config := rootedAt "w/x/.." false
    let r := uniform "a" good none
    Fresh empty [] config.workspaceRoot [r] ∧
      Smooth (r.host config [] []) (Pipeline.run config r.id r.script) empty ∧
      reach (start [] config.workspaceRoot) (Path.pieces config.workspaceRoot) = ["w"] ∧
      ¬ ∀ name k, (r.serve config [] [] empty).2.get? (["w"] ++ name :: k) = empty.get? (["w"] ++ name :: k) := by
  intro config r
  have fresh : Fresh empty [] config.workspaceRoot [r] :=
    ⟨empty_sound, by decide, by decide, by decide, by decide, by decide, by decide⟩
  refine ⟨fresh, by decide +kernel, by decide, ?_⟩
  intro unchanged
  have entry : (r.serve config [] [] empty).2.get? ["w", "x"] = some .folder := by decide +kernel
  have absent := unchanged "x" []
  rw [List.singleton_append, entry] at absent
  cases absent

end Climbing

end Tabscript.WorkspaceHygiene
