import Tabscript.Proofs.FolderPaths
import Tabscript.Proofs.HostTranscript

/-! Operations that stay inside one folder. Such an operation cannot see more of a tree
than the way to its folder and what is below, and changes nothing elsewhere; so its
result and its doing are the same in all trees that agree there. Writing, looking and
removing by the absolute path of a folder are of this kind, and so is every plan made
of them. -/
namespace Tabscript.FolderLocality
open FileTree TreeLookups PathNames FolderPaths HostTranscript

variable {α : Type} {t s : FileTree} {l m k cwd : Location} {file : String} {content : List UInt8}

/-- Two trees with the same way to a location and the same things below it. -/
structure Alike (l : Location) (t s : FileTree) : Prop where
  above : ∀ m, m <+: l → t.get? m = s.get? m
  below : ∀ k, l <+: k → t.get? k = s.get? k

/-- The operation stays inside the folder at a location. -/
structure Local (l : Location) (op : StateM FileTree α) : Prop where
  sound : ∀ t, Sound t → Sound (op t).2
  frame : ∀ t k, ¬ l <+: k → (op t).2.get? k = t.get? k
  alike : ∀ t s, Alike l t s → (op t).1 = (op s).1 ∧ ∀ k, l <+: k → (op t).2.get? k = (op s).2.get? k

section Plans

variable {host : (effect : Effect) → StateM FileTree effect.Reply}

/-- Trees that were alike are so after the same local operation. -/
private theorem alike_after {op : StateM FileTree α} (op_local : Local l op) (alike : Alike l t s) :
    Alike l (op t).2 (op s).2 := by
  have below := (op_local.alike t s alike).2
  refine ⟨fun m above => ?_, below⟩
  by_cases inside : l <+: m
  · exact below m inside
  · rw [op_local.frame t m inside, op_local.frame s m inside]
    exact alike.above m above

theorem local_pure (a : α) : Local l fun t => (a, t) :=
  ⟨fun _ sound => sound, fun _ _ _ => rfl, fun _ _ alike => ⟨rfl, alike.below⟩⟩

theorem local_done (a : α) : Local l ((Plan.done a).run host) :=
  local_pure a

theorem local_bind {β : Type} {plan : Plan α} {next : α → Plan β} (first : Local l (plan.run host))
    (rest : ∀ a, Local l ((next a).run host)) : Local l ((plan >>= next).run host) := by
  refine ⟨fun t sound => ?_, fun t k outside => ?_, fun t s alike => ?_⟩
  · rw [run_bind]
    exact (rest _).sound _ (first.sound t sound)
  · rw [run_bind]
    exact ((rest _).frame _ k outside).trans (first.frame t k outside)
  · have goes := (rest (plan.run host t).1).alike _ _ (alike_after first alike)
    rw [run_bind, run_bind, ← (first.alike t s alike).1]
    exact goes

variable {input : List UInt8} {launch : Invocation → StateM FileTree Launch}

@[simp] theorem run_write (path : String) (bytes : List UInt8) :
    (Plan.writeFile path bytes).run (answer cwd input launch) = fun t => t.writeFile cwd path bytes := rfl

@[simp] theorem run_make (path : String) (t : FileTree) :
    (Plan.makeFolders path).run (answer cwd input launch) t = t.makeFolders cwd path := rfl

@[simp] theorem run_resolve (path : String) (t : FileTree) :
    (Plan.resolve path).run (answer cwd input launch) t = (t.resolve cwd path, t) := rfl

@[simp] theorem run_present (path : String) :
    (Plan.isPresent path).run (answer cwd input launch) = fun t => (t.isPresent cwd path, t) := rfl

@[simp] theorem run_remove (path : String) :
    (Plan.removeFolder path).run (answer cwd input launch) = fun t => ((), t.removeFolder cwd path) := rfl

@[simp] theorem run_launch (call : Invocation) :
    (Plan.launch call).run (answer cwd input launch) = launch call := rfl

end Plans

section Inside

/-- What a host has against a path as a text. -/
def pathFault (path : String) : Option IoFault :=
  if hasNul path then some .badPath
  else if pathTooLong path then some .nameTooLong
  else none

theorem fault_front {front back : String} (free : pathFault (front ++ back) = none) : pathFault front = none := by
  have plain : hasNul (front ++ back) = false := by
    cases nul : hasNul (front ++ back) with
    | true => simp [pathFault, nul] at free
    | false => rfl
  have short : pathTooLong (front ++ back) = false := by
    cases long : pathTooLong (front ++ back) with
    | true => simp [pathFault, plain, long] at free
    | false => rfl
  have front_plain : hasNul front = false := by
    simp only [hasNul, String.toList_append, List.contains_eq_mem, List.mem_append, decide_eq_false_iff_not,
      not_or] at plain ⊢
    exact plain.1
  have front_short : pathTooLong front = false := by
    simp only [pathTooLong, String.utf8ByteSize_append, decide_eq_false_iff_not] at short ⊢
    omega
  rw [pathFault, front_plain, front_short]
  rfl

/-- A path that never goes up and ends above a location or below it leads to the same
end in trees that are alike there. -/
theorem follow_alike (ps rest : List String) (alike : Alike l t s) (plain : ".." ∉ ps)
    (ends : reach [] ps <+: l ++ rest) : t.follow [] ps = s.follow [] ps := by
  apply follow_congr
  intro m member
  have above := (way_below plain member).trans ends
  rcases List.prefix_or_prefix_of_prefix above (List.prefix_append l rest) with short | long
  · exact alike.above m short
  · exact alike.below m long

variable (components : ∀ name ∈ l, IsComponent name)

include components

private theorem reach_folder : reach [] (l ++ ["."]) = l := by
  rw [reach_append, reach_names components, List.nil_append]
  rfl

/-- Only what is above a folder decides whether its absolute path leads there. -/
theorem folder_congr (same : ∀ m, m <+: l → t.get? m = s.get? m) : t.followFolder [] l = s.followFolder [] l := by
  have plain : ".." ∉ l ++ ["."] := by simp [components_plain components]
  apply follow_congr
  intro m member
  have above := way_below plain member
  rw [reach_folder components] at above
  exact same m above

private theorem folder_found (led : t.followFolder [] l = .ok m) : m = l :=
  (follow_reach led).trans (reach_folder components)

variable (component : IsComponent file)

include component

theorem entry_components : ∀ name ∈ l ++ [file], IsComponent name := by
  intro name member
  rcases List.mem_append.mp member with inside | last
  · exact components name inside
  · rw [List.mem_singleton.mp last]
    exact component

theorem locate_inside : t.locate cwd (Path.join (absolute l) file) =
    (pathFault (Path.join (absolute l) file)).elim (t.follow [] (l ++ [file])) .error := by
  have path : steps (Path.join (absolute l) file) = l ++ [file] := by
    rw [steps_join component, pieces_absolute components]
  rw [locate, pathFault, start_join cwd component, start_absolute, path, join_filled component]
  cases hasNul (Path.join (absolute l) file) <;> cases pathTooLong (Path.join (absolute l) file) <;> rfl

theorem write_inside : t.writeFile cwd (Path.join (absolute l) file) content =
    match pathFault (Path.join (absolute l) file), t.followFolder [] l with
    | some e, _ => (.error e, t)
    | none, .error e => (.error e, t)
    | none, .ok _ =>
      if tooLong file then (.error .nameTooLong, t)
      else if t.get? (l ++ [file]) = some .folder then (.error .isDirectory, t)
      else (.ok (), t.put (l ++ [file]) (.file content)) := by
  have begins : start cwd (Path.join (absolute l) file) = [] := by simp [component]
  have path : Path.pieces (Path.join (absolute l) file) = l ++ [file] := by
    rw [pieces_join _ component, pieces_absolute components]
  have moves : (file = "." || file = "..") = false := by simpa using component_down component
  rw [writeFile, pathFault, join_filled component]
  simp only [path, begins, List.getLast?_concat, List.dropLast_concat, moves, join_unclosed component]
  cases hasNul (Path.join (absolute l) file) with
  | true => rfl
  | false =>
    cases pathTooLong (Path.join (absolute l) file) with
    | true => rfl
    | false =>
      cases led : t.followFolder [] l with
      | error e => rfl
      | ok m =>
        rw [folder_found components led]
        cases tooLong file with
        | true => rfl
        | false =>
          cases found : t.get? (l ++ [file]) with
          | none => simp [found]
          | some node => cases node <;> simp [found]

/-- Writing either fails and changes nothing, or the folder was there and now holds the
file. -/
theorem write_cases (cwd : Location) (t : FileTree) (content : List UInt8) :
    (∃ e, t.writeFile cwd (Path.join (absolute l) file) content = (.error e, t)) ∨
      (pathFault (Path.join (absolute l) file) = none ∧ t.followFolder [] l = .ok l ∧
        t.get? (l ++ [file]) ≠ some .folder ∧
        t.writeFile cwd (Path.join (absolute l) file) content = (.ok (), t.put (l ++ [file]) (.file content))) := by
  rw [write_inside components component]
  cases pathFault (Path.join (absolute l) file) with
  | some e => exact .inl ⟨e, rfl⟩
  | none =>
    cases led : t.followFolder [] l with
    | error e => exact .inl ⟨e, rfl⟩
    | ok m =>
      rw [folder_found components led]
      by_cases long : tooLong file
      · exact .inl ⟨_, if_pos long⟩
      · by_cases taken : t.get? (l ++ [file]) = some .folder
        · exact .inl ⟨.isDirectory, by simp [long, taken]⟩
        · exact .inr ⟨rfl, rfl, taken, by simp [long, taken]⟩

theorem write_local (cwd : Location) (content : List UInt8) :
    Local l fun t => t.writeFile cwd (Path.join (absolute l) file) content := by
  refine ⟨fun t sound => ?_, fun t k outside => ?_, fun t s alike => ?_⟩
  · rcases write_cases components component cwd t content with ⟨e, failed⟩ | ⟨_, led, free, wrote⟩
    · rw [failed]
      exact sound
    · have here := folder_paved sound (get_root t) led _ (reach_in_way [] l)
      rw [reach_names components, List.nil_append] at here
      rw [wrote]
      exact sound_put sound here (.inr free)
  · have apart : k ≠ l ++ [file] := by
      rintro rfl
      exact outside (List.prefix_append l [file])
    rcases write_cases components component cwd t content with ⟨e, failed⟩ | ⟨_, _, _, wrote⟩
    · rw [failed]
    · simp [wrote, apart]
  · have there := alike.below _ (List.prefix_append l [file])
    rw [write_inside components component, write_inside components component, folder_congr components alike.above,
      there]
    cases pathFault (Path.join (absolute l) file) with
    | some e => exact ⟨rfl, alike.below⟩
    | none =>
      cases s.followFolder [] l with
      | error e => exact ⟨rfl, alike.below⟩
      | ok m =>
        dsimp only
        split
        · exact ⟨rfl, alike.below⟩
        · split
          · exact ⟨rfl, alike.below⟩
          · refine ⟨rfl, fun k inside => ?_⟩
            simp [alike.below k inside]

theorem present_local (cwd : Location) : Local l fun t => (t.isPresent cwd (Path.join (absolute l) file), t) := by
  refine ⟨fun _ sound => sound, fun _ _ _ => rfl, fun t s alike => ⟨?_, alike.below⟩⟩
  have names := entry_components components component
  have same := follow_alike (l ++ [file]) [file] alike (components_plain names) (by rw [reach_names names]; simp)
  dsimp only
  rw [isPresent, isPresent, locate_inside components component, locate_inside components component, same]

theorem remove_inside (cwd : Location) (t : FileTree) : t.removeFolder cwd (absolute (l ++ [file])) =
    match pathFault (absolute (l ++ [file])), t.follow [] (l ++ [file]) with
    | none, .ok _ => if t.isFolder (l ++ [file]) then t.prune (l ++ [file]) else t
    | _, _ => t := by
  have names := entry_components components component
  rw [removeFolder, absolute_join components component, locate_inside components component]
  cases pathFault (Path.join (absolute l) file) with
  | some e => rfl
  | none =>
    cases led : t.follow [] (l ++ [file]) with
    | error e => rfl
    | ok m =>
      have found := follow_reach led
      rw [reach_names names, List.nil_append] at found
      rw [found]
      rfl

/-- Removing a folder is local to it. -/
theorem remove_local (cwd : Location) :
    Local (l ++ [file]) fun t => ((), t.removeFolder cwd (absolute (l ++ [file]))) := by
  have names := entry_components components component
  refine ⟨fun t sound => ?_, fun t k outside => ?_, fun t s alike => ⟨rfl, fun k inside => ?_⟩⟩
  · dsimp only
    rw [remove_inside components component]
    split
    · split
      · exact sound_prune sound (by simp)
      · exact sound
    · exact sound
  · dsimp only
    rw [remove_inside components component]
    split
    · split
      · simp [outside]
      · rfl
    · rfl
  · have same := follow_alike (l ++ [file]) [] alike (components_plain names)
      (by rw [reach_names names]; simp)
    have folder : t.isFolder (l ++ [file]) = s.isFolder (l ++ [file]) := by
      rw [isFolder, isFolder, alike.below _ List.prefix_rfl]
    dsimp only
    rw [remove_inside components component, remove_inside components component, same, folder]
    split
    · split
      · simp [inside]
      · exact alike.below k inside
    · exact alike.below k inside

end Inside

end Tabscript.FolderLocality
