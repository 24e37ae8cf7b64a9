import Tabscript.Proofs.PathNames
import Tabscript.Proofs.TreeLookups

/-! Following a path. There are no links, so where a path leads can be read off its
pieces: `reach` is the last location and `way` are all of them. Whether the path can be
followed depends on what stands on the way alone. -/
namespace Tabscript.FolderPaths
open FileTree TreeLookups PathNames

/-- Where one piece leads: a dot stays, two dots go up, a name goes down. -/
def stepTo (l : Location) (piece : String) : Location :=
  if piece = "." then l else if piece = ".." then l.dropLast else l ++ [piece]

def reach (l : Location) (ps : List String) : Location :=
  ps.foldl stepTo l

/-- The locations that pieces lead through, the first and the last included. -/
def way (l : Location) : List String → List Location
  | [] => [l]
  | piece :: more => l :: way (stepTo l piece) more

def holdsFile (t : FileTree) (l : Location) : Bool :=
  match t.get? l with
  | some (.file _) => true
  | _ => false

/-- What stops a path even where its missing folders are made: a name that is too
long, or a file in the place of a folder. -/
def obstacle (t : FileTree) (l : Location) : List String → Option IoFault
  | [] => none
  | piece :: more =>
    if piece = "." ∨ piece = ".." then obstacle t (stepTo l piece) more
    else if tooLong piece then some .nameTooLong
    else if holdsFile t (l ++ [piece]) then some .notDirectory
    else obstacle t (l ++ [piece]) more

/-- Every location is a folder. -/
def Paved (t : FileTree) (places : List Location) : Prop :=
  ∀ m ∈ places, t.get? m = some .folder

def Clear (t : FileTree) (places : List Location) : Prop :=
  ∀ m ∈ places, holdsFile t m = false

/-- Behind a missing folder no file is met. A path that never goes up has this
property in every tree, and so has one without files on it. -/
def Steady (t : FileTree) (places : List Location) : Prop :=
  places.Pairwise fun m n => t.get? m = none → holdsFile t n = false

variable {t s : FileTree} {l m : Location} {ps : List String} {piece name : String}
  {view : List (Location × Node)} {content : List UInt8}

section Ways

theorem step_name (down : ¬ (piece = "." ∨ piece = "..")) : stepTo l piece = l ++ [piece] := by
  rw [not_or] at down
  rw [stepTo, if_neg down.1, if_neg down.2]

theorem component_down (component : IsComponent name) : ¬ (name = "." ∨ name = "..") :=
  not_or.mpr component.moves

theorem way_start (l : Location) (ps : List String) : l ∈ way l ps := by
  cases ps <;> simp [way]

@[simp] theorem reach_append (l : Location) (ps qs : List String) : reach l (ps ++ qs) = reach (reach l ps) qs :=
  List.foldl_append

theorem reach_in_way (l : Location) (ps : List String) : reach l ps ∈ way l ps := by
  induction ps generalizing l with
  | nil => simp [way, reach]
  | cons piece more ih => exact List.mem_cons_of_mem _ (ih (stepTo l piece))

theorem reach_components (here : ∀ name ∈ l, IsComponent name)
    (pieces : ∀ piece ∈ ps, piece ≠ "." ∧ piece ≠ ".." → IsComponent piece) :
    ∀ name ∈ reach l ps, IsComponent name := by
  induction ps generalizing l with
  | nil => exact here
  | cons piece more ih =>
    refine ih (l := stepTo l piece) ?_ fun piece member => pieces piece (by simp [member])
    intro name member
    by_cases stays : piece = "."
    · rw [stepTo, if_pos stays] at member
      exact here name member
    · by_cases up : piece = ".."
      · rw [stepTo, if_neg stays, if_pos up] at member
        exact here name (List.mem_of_mem_dropLast member)
      · rw [stepTo, if_neg stays, if_neg up, List.mem_append, List.mem_singleton] at member
        rcases member with inside | rfl
        · exact here name inside
        · exact pieces name (by simp) ⟨stays, up⟩

/-- Names alone lead straight down. -/
theorem reach_names {names : List String} (components : ∀ name ∈ names, IsComponent name) :
    reach l names = l ++ names := by
  induction names generalizing l with
  | nil => simp [reach]
  | cons name more ih =>
    have tail := ih (l := l ++ [name]) fun other member => components other (by simp [member])
    rw [reach, List.foldl_cons, step_name (component_down (components name (by simp)))]
    simpa [reach] using tail

theorem components_plain {names : List String} (components : ∀ name ∈ names, IsComponent name) : ".." ∉ names :=
  fun member => (components _ member).moves.2 rfl

private theorem step_down (plain : piece ≠ "..") : l <+: stepTo l piece := by
  by_cases stays : piece = "."
  · rw [stepTo, if_pos stays]
  · rw [stepTo, if_neg stays, if_neg plain]
    exact List.prefix_append l [piece]

private theorem way_above (plain : ".." ∉ ps) (member : m ∈ way l ps) : l <+: m := by
  induction ps generalizing l with
  | nil => rw [List.mem_singleton.mp member]
  | cons piece more ih =>
    rw [List.mem_cons, not_or] at plain
    rcases List.mem_cons.mp member with rfl | later
    · exact List.prefix_rfl
    · exact (step_down (Ne.symm plain.1)).trans (ih plain.2 later)

/-- A path that never goes up leads through what is above its end. -/
theorem way_below (plain : ".." ∉ ps) (member : m ∈ way l ps) : m <+: reach l ps := by
  induction ps generalizing l with
  | nil =>
    rw [List.mem_singleton.mp member]
    exact List.prefix_rfl
  | cons piece more ih =>
    have under := way_above plain (reach_in_way l (piece :: more))
    rw [List.mem_cons, not_or] at plain
    rcases List.mem_cons.mp member with rfl | later
    · exact under
    · exact ih plain.2 later

/-- Dots neither change where pieces lead nor where they lead through. -/
theorem way_dots (l : Location) (ps : List String) :
    reach l (ps.filter (· != ".")) = reach l ps ∧ ∀ m, m ∈ way l (ps.filter (· != ".")) ↔ m ∈ way l ps := by
  induction ps generalizing l with
  | nil => simp
  | cons piece more ih =>
    by_cases dot : piece = "."
    · have stays : stepTo l piece = l := if_pos dot
      obtain ⟨same, through⟩ := ih l
      simp only [dot, bne_self_eq_false, Bool.false_eq_true, not_false_eq_true, List.filter_cons_of_neg]
      rw [dot] at stays
      refine ⟨by rw [same, reach, reach, List.foldl_cons, stays], fun m => ?_⟩
      rw [way, stays, through m, List.mem_cons]
      constructor
      · exact .inr
      · rintro (rfl | member)
        · exact way_start m more
        · exact member
    · have kept : (piece != ".") = true := by simpa using dot
      rw [List.filter_cons_of_pos (p := (· != ".")) kept]
      obtain ⟨same, through⟩ := ih (stepTo l piece)
      refine ⟨same, fun m => ?_⟩
      rw [way, way, List.mem_cons, List.mem_cons, through m]

theorem obstacle_dots (t : FileTree) (l : Location) (ps : List String) :
    obstacle t l (ps.filter (· != ".")) = obstacle t l ps := by
  induction ps generalizing l with
  | nil => rfl
  | cons piece more ih =>
    by_cases dot : piece = "."
    · subst dot
      rw [List.filter_cons_of_neg (by simp), ih, obstacle, if_pos (.inl rfl)]
      rfl
    · rw [List.filter_cons_of_pos (by simpa using dot), obstacle, obstacle, ih, ih]

theorem obstacle_kind {e : IoFault} (stops : obstacle t l ps = some e) :
    e = .nameTooLong ∨ e = .notDirectory := by
  induction ps generalizing l with
  | nil => cases stops
  | cons piece more ih =>
    rw [obstacle] at stops
    split at stops
    · exact ih stops
    · split at stops
      · cases stops
        exact .inl rfl
      · split at stops
        · cases stops
          exact .inr rfl
        · exact ih stops

theorem obstacle_congr (same : ∀ m ∈ way l ps, holdsFile t m = holdsFile s m) :
    obstacle t l ps = obstacle s l ps := by
  induction ps generalizing l with
  | nil => rfl
  | cons piece more ih =>
    have later := ih (l := stepTo l piece) fun m member => same m (List.mem_cons_of_mem _ member)
    have here := same (stepTo l piece) (List.mem_cons_of_mem _ (way_start _ _))
    rw [obstacle, obstacle]
    by_cases step : piece = "." ∨ piece = ".."
    · rw [if_pos step, if_pos step, later]
    · rw [step_name step] at later here
      rw [if_neg step, if_neg step, later, here]

end Ways

theorem file_at (there : t.get? l = some (.file content)) : holdsFile t l = true := by
  rw [holdsFile, there]

theorem no_file_in_folder (there : t.get? l = some .folder) : holdsFile t l = false := by
  rw [holdsFile, there]

theorem no_file_missing (missing : t.get? l = none) : holdsFile t l = false := by
  rw [holdsFile, missing]

theorem empty_clear (places : List Location) : Clear empty places := by
  intro m _
  rcases List.eq_nil_or_concat m with rfl | ⟨front, name, rfl⟩
  · rfl
  · rw [List.concat_eq_append]
    exact no_file_missing (empty_missing front name)

theorem steady_clear {places : List Location} (clear : Clear t places) : Steady t places :=
  List.pairwise_of_forall_mem_list fun _ _ n member _ => clear n member

theorem steady_plain (sound : Sound t) (plain : ".." ∉ ps) : Steady t (way l ps) := by
  induction ps generalizing l with
  | nil => exact List.pairwise_singleton _ _
  | cons piece more ih =>
    refine List.pairwise_cons.mpr ⟨?_, ih fun member => plain (List.mem_cons_of_mem _ member)⟩
    intro n member missing
    have above := way_above plain (List.mem_cons_of_mem l member)
    by_cases same : l = n
    · rw [← same]
      exact no_file_missing missing
    · exact no_file_missing (nothing_below sound (by simp [missing]) above same)

section Following

private theorem walk_view (sees : Sees t l view) : walk t l view ps = t.follow l ps := by
  rw [follow]
  have below := below_sees t l
  generalize t.below l = other at below
  induction ps generalizing l view other with
  | nil => rfl
  | cons piece more ih =>
    rw [walk, walk]
    by_cases stays : piece = "."
    · rw [if_pos stays, if_pos stays]
      exact ih sees other below
    · by_cases up : piece = ".."
      · rw [if_neg stays, if_neg stays, if_pos up, if_pos up]
      · rw [if_neg stays, if_neg stays, if_neg up, if_neg up]
        simp only [enter_here sees, enter_here below]
        have inside := ih (sees_enter sees piece) _ (sees_enter below piece)
        rw [inside]

theorem follow_step (step : piece = "." ∨ piece = "..") (more : List String) :
    t.follow l (piece :: more) = t.follow (stepTo l piece) more := by
  rw [follow, walk, stepTo]
  by_cases stays : piece = "."
  · rw [if_pos stays, if_pos stays]
    exact walk_view (below_sees t l)
  · have up := step.resolve_left stays
    rw [if_neg stays, if_neg stays, if_pos up, if_pos up]
    exact walk_view (below_sees t l.dropLast)

theorem follow_name (down : ¬ (piece = "." ∨ piece = "..")) (more : List String) :
    t.follow l (piece :: more) =
      if tooLong piece then .error .nameTooLong
      else match t.get? (l ++ [piece]) with
        | none => .error .notFound
        | some .folder => t.follow (l ++ [piece]) more
        | some (.file _) => if more.isEmpty then .ok (l ++ [piece]) else .error .notDirectory := by
  rw [not_or] at down
  rw [follow, walk, if_neg down.1, if_neg down.2]
  dsimp only
  rw [enter_here (below_sees t l)]
  cases t.get? (l ++ [piece]) with
  | none => rfl
  | some node =>
    cases node with
    | folder =>
      dsimp only
      rw [walk_view (sees_enter (below_sees t l) piece)]
    | file content => rfl

/-- Only what stands on the way decides where a path leads. -/
theorem follow_congr (same : ∀ m ∈ way l ps, t.get? m = s.get? m) : t.follow l ps = s.follow l ps := by
  induction ps generalizing l with
  | nil => rfl
  | cons piece more ih =>
    have later := ih (l := stepTo l piece) fun m member => same m (List.mem_cons_of_mem _ member)
    have here := same (stepTo l piece) (List.mem_cons_of_mem _ (way_start _ _))
    by_cases step : piece = "." ∨ piece = ".."
    · rw [follow_step step, follow_step step, later]
    · rw [step_name step] at later here
      rw [follow_name step, follow_name step, later, here]

theorem follow_reach (led : t.follow l ps = .ok m) : m = reach l ps := by
  induction ps generalizing l with
  | nil =>
    cases led
    rfl
  | cons piece more ih =>
    rw [reach, List.foldl_cons, ← reach]
    by_cases step : piece = "." ∨ piece = ".."
    · rw [follow_step step] at led
      exact ih led
    · rw [follow_name step] at led
      rw [step_name step]
      split at led
      · cases led
      · split at led
        · cases led
        · exact ih led
        · split at led
          · rename_i last
            cases led
            rw [List.isEmpty_iff.mp last]
            rfl
          · cases led

/-- A path to a folder is not found, or only its obstacle decides. -/
theorem folder_verdict (t : FileTree) (l : Location) (ps : List String) :
    t.followFolder l ps = .error .notFound ∨
      t.followFolder l ps = (obstacle t l ps).elim (.ok (reach l ps)) .error := by
  rw [followFolder]
  induction ps generalizing l with
  | nil =>
    right
    rw [List.nil_append, follow_step (.inl rfl)]
    rfl
  | cons piece more ih =>
    rw [List.cons_append, obstacle, reach, List.foldl_cons, ← reach]
    by_cases step : piece = "." ∨ piece = ".."
    · rw [follow_step step, if_pos step]
      exact ih (stepTo l piece)
    · rw [follow_name step, if_neg step, step_name step]
      cases tooLong piece with
      | true => exact .inr rfl
      | false =>
        cases there : t.get? (l ++ [piece]) with
        | none => exact .inl rfl
        | some node =>
          cases node with
          | folder =>
            rw [no_file_in_folder there]
            exact ih (l ++ [piece])
          | file content =>
            rw [file_at there]
            right
            simp

theorem step_folder (sound : Sound t) (here : t.get? l = some .folder) (step : piece = "." ∨ piece = "..") :
    t.get? (stepTo l piece) = some .folder := by
  rcases step with rfl | rfl
  · exact here
  · exact parent_folder sound here

theorem paved_cons (here : t.get? l = some .folder) (rest : Paved t (way (stepTo l piece) ps)) :
    Paved t (way l (piece :: ps)) := by
  intro m member
  rcases List.mem_cons.mp member with rfl | later
  · exact here
  · exact rest m later

/-- A path that leads to a folder leads through folders. -/
theorem folder_paved (sound : Sound t) (here : t.get? l = some .folder)
    (led : t.followFolder l ps = .ok m) : Paved t (way l ps) := by
  rw [followFolder] at led
  induction ps generalizing l with
  | nil =>
    intro n member
    rw [List.mem_singleton.mp member]
    exact here
  | cons piece more ih =>
    rw [List.cons_append] at led
    apply paved_cons here
    by_cases step : piece = "." ∨ piece = ".."
    · rw [follow_step step] at led
      exact ih (step_folder sound here step) led
    · rw [follow_name step] at led
      rw [step_name step]
      split at led
      · cases led
      · split at led
        · cases led
        · exact ih ‹_› led
        · simp at led

/-- A path whose folders are all there is found unless there is an obstacle. -/
theorem paved_verdict (paved : Paved t (way l ps)) :
    t.followFolder l ps = (obstacle t l ps).elim (.ok (reach l ps)) .error := by
  refine (folder_verdict t l ps).resolve_left ?_
  rw [followFolder]
  induction ps generalizing l with
  | nil =>
    rw [List.nil_append, follow_step (.inl rfl)]
    nofun
  | cons piece more ih =>
    have rest := ih (l := stepTo l piece) fun m member => paved m (List.mem_cons_of_mem _ member)
    rw [List.cons_append]
    by_cases step : piece = "." ∨ piece = ".."
    · rw [follow_step step]
      exact rest
    · have there := paved (stepTo l piece) (List.mem_cons_of_mem _ (way_start _ _))
      rw [step_name step] at there rest
      rw [follow_name step, there]
      split
      · nofun
      · exact rest

/-- Past a folder, following a path begins anew there. -/
theorem follow_through (led : t.followFolder l ps = .ok m) (qs : List String) :
    t.follow l (ps ++ qs) = t.follow m qs := by
  rw [followFolder] at led
  induction ps generalizing l with
  | nil =>
    rw [List.nil_append, follow_step (.inl rfl)] at led
    cases led
    rfl
  | cons piece more ih =>
    rw [List.cons_append] at led ⊢
    by_cases step : piece = "." ∨ piece = ".."
    · rw [follow_step step] at led ⊢
      exact ih led
    · rw [follow_name step] at led ⊢
      split at led
      · cases led
      · rename_i fits
        rw [if_neg fits]
        split at led
        · cases led
        · rename_i there
          exact ih led
        · simp at led

/-- Where a steady path is not found, no file stands on it at all. -/
theorem missing_clear (sound : Sound t) (here : t.get? l = some .folder) (steady : Steady t (way l ps))
    (missing : t.followFolder l ps = .error .notFound) : Clear t (way l ps) := by
  rw [followFolder] at missing
  induction ps generalizing l with
  | nil =>
    rw [List.nil_append, follow_step (.inl rfl)] at missing
    cases missing
  | cons piece more ih =>
    have rest : Steady t (way (stepTo l piece) more) := (List.pairwise_cons.mp steady).2
    have tail : Clear t (way (stepTo l piece) more) := by
      rw [List.cons_append] at missing
      by_cases step : piece = "." ∨ piece = ".."
      · rw [follow_step step] at missing
        exact ih (step_folder sound here step) rest missing
      · rw [follow_name step] at missing
        rw [step_name step] at rest ⊢
        split at missing
        · cases missing
        · split at missing
          · -- The first missing folder: what comes behind it is no file, since the path is steady.
            rename_i gap
            intro m member
            cases more with
            | nil =>
              rw [List.mem_singleton.mp member]
              exact no_file_missing gap
            | cons next more =>
              rcases List.mem_cons.mp member with rfl | later
              · exact no_file_missing gap
              · exact (List.pairwise_cons.mp rest).1 m later gap
          · exact ih ‹_› rest missing
          · simp at missing
    intro m member
    rcases List.mem_cons.mp member with rfl | later
    · exact no_file_in_folder here
    · exact tail m later

end Following

end Tabscript.FolderPaths
