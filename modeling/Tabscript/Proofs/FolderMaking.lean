import Tabscript.Proofs.FolderPaths

/-! Making the folders of a path. Nothing changes but the way: folders appear where
nothing stood, and what stood there stays. -/
namespace Tabscript.FolderMaking
open FileTree TreeLookups PathNames FolderPaths

/-- The second tree is the first one with folders at some of the places where nothing
stood. -/
def Gains (places : List Location) (t after : FileTree) : Prop :=
  ∀ k, after.get? k = t.get? k ∨
    (k ∈ places ∧ t.get? k = none ∧ after.get? k = some .folder)

variable {t s after : FileTree} {l m k : Location} {ps : List String} {piece name : String}
  {view : List (Location × Node)} {places : List Location}

section Gaining

theorem gains_refl (places : List Location) (t : FileTree) : Gains places t t :=
  fun _ => .inl rfl

theorem gains_folder (gains : Gains places t after) (here : t.get? k = some .folder) :
    after.get? k = some .folder := by
  rcases gains k with same | ⟨_, _, made⟩
  · rw [same, here]
  · exact made

theorem gains_trans (first : Gains places t s) (second : Gains places s after) : Gains places t after := by
  intro k
  rcases first k with same | ⟨member, missing, made⟩
  · rw [← same]
    exact second k
  · exact .inr ⟨member, missing, gains_folder second made⟩

theorem gains_mono {more : List Location} (sub : places ⊆ more) (gains : Gains places t after) :
    Gains more t after := by
  intro k
  rcases gains k with same | ⟨member, missing, made⟩
  · exact .inl same
  · exact .inr ⟨sub member, missing, made⟩

theorem gains_files (gains : Gains places t after) (k : Location) : holdsFile after k = holdsFile t k := by
  rcases gains k with same | ⟨_, missing, made⟩
  · rw [holdsFile, holdsFile, same]
  · rw [no_file_in_folder made, no_file_missing missing]

theorem gains_elsewhere (gains : Gains places t after) (out : k ∉ places) : after.get? k = t.get? k := by
  rcases gains k with same | ⟨member, _⟩
  · exact same
  · exact absurd member out

theorem gains_set {node : Node} (missing : t.get? l = none) (folder : node = .folder)
    (set : ∀ k, after.get? k = if k = l then some node else t.get? k) : Gains [l] t after := by
  intro k
  rw [set k]
  by_cases same : k = l
  · rw [if_pos same, same, folder]
    exact .inr ⟨by simp, missing, rfl⟩
  · rw [if_neg same]
    exact .inl rfl

end Gaining

section Descending

/-- Makes the missing folders of a path from a location on. -/
def descendFrom (t : FileTree) (l : Location) (ps : List String) : Except IoFault Unit × FileTree :=
  t.descend l (t.below l) ps

private theorem sees_add (sees : Sees t l view) : Sees (t.add l .folder) l view := by
  intro k inner
  by_cases top : l = []
  · subst top
    rw [sees k inner, List.nil_append, get_inner _ inner, get_inner _ inner, add, List.lookup_cons,
      beq_eq_false_iff_ne.mpr inner]
  · have apart : l ++ k ≠ l := by simp [inner]
    rw [sees k inner, get_add top, if_neg apart]

private theorem descend_view (sees : Sees t l view) : t.descend l view ps = descendFrom t l ps := by
  rw [descendFrom]
  have below := below_sees t l
  generalize t.below l = other at below
  induction ps generalizing t l view other with
  | nil => rfl
  | cons piece more ih =>
    rw [descend, descend]
    by_cases stays : piece = "."
    · rw [if_pos stays, if_pos stays]
      exact ih sees other below
    · by_cases up : piece = ".."
      · rw [if_neg stays, if_neg stays, if_pos up, if_pos up]
      · rw [if_neg stays, if_neg stays, if_neg up, if_neg up]
        simp only [enter_here sees, enter_here below]
        have inside := ih (sees_enter sees piece) _ (sees_enter below piece)
        have added := ih (sees_add (sees_enter sees piece)) _ (sees_add (sees_enter below piece))
        rw [inside, added]

private theorem descend_step (step : piece = "." ∨ piece = "..") (more : List String) :
    descendFrom t l (piece :: more) = descendFrom t (stepTo l piece) more := by
  rw [descendFrom, descend, stepTo]
  by_cases stays : piece = "."
  · rw [if_pos stays, if_pos stays]
    exact descend_view (below_sees t l)
  · have up := step.resolve_left stays
    rw [if_neg stays, if_neg stays, if_pos up, if_pos up]
    exact descend_view (below_sees t l.dropLast)

private theorem descend_name (down : ¬ (piece = "." ∨ piece = "..")) (more : List String) :
    descendFrom t l (piece :: more) =
      if tooLong piece then (.error .nameTooLong, t)
      else match t.get? (l ++ [piece]) with
        | none => descendFrom (t.add (l ++ [piece]) .folder) (l ++ [piece]) more
        | some .folder => descendFrom t (l ++ [piece]) more
        | some (.file _) => (.error .present, t) := by
  rw [not_or] at down
  have inner := sees_enter (below_sees t l) piece
  rw [descendFrom, descend, if_neg down.1, if_neg down.2]
  dsimp only
  rw [enter_here (below_sees t l)]
  cases t.get? (l ++ [piece]) with
  | none =>
    dsimp only
    rw [descend_view (sees_add inner)]
  | some node =>
    cases node with
    | folder =>
      dsimp only
      rw [descend_view inner]
    | file content => rfl

/-- What becomes of a tree when the folders of a path are made in it: nothing changes
but the way, and only a file or a long name can be in the way. -/
structure Laid (t : FileTree) (l : Location) (ps : List String) (result : Except IoFault Unit × FileTree) :
    Prop where
  gains : Gains (way l ps) t result.2
  sound : Sound result.2
  done : result.1 = .ok () → Clear t (way l ps) ∧ Paved result.2 (way l ps)
  verdict : Clear t (way l ps) → result.1 = (obstacle t l ps).elim (.ok ()) .error

private theorem laid_stopped {e : IoFault} (sound : Sound t)
    (verdict : Clear t (way l ps) → obstacle t l ps = some e) : Laid t l ps (.error e, t) where
  gains := gains_refl _ t
  sound := sound
  done := nofun
  verdict := fun clear => by rw [verdict clear]; rfl

private theorem laid_cons {mid : FileTree} {result : Except IoFault Unit × FileTree}
    (here : t.get? l = some .folder) (gain : Gains [stepTo l piece] t mid)
    (laid : Laid mid (stepTo l piece) ps result)
    (same : obstacle t l (piece :: ps) = obstacle t (stepTo l piece) ps) : Laid t l (piece :: ps) result := by
  have start : [stepTo l piece] ⊆ way l (piece :: ps) := by
    intro m member
    rw [List.mem_singleton.mp member]
    exact List.mem_cons_of_mem _ (way_start _ _)
  have tail : way (stepTo l piece) ps ⊆ way l (piece :: ps) := List.subset_cons_self _ _
  have gains := gains_trans (gains_mono start gain) (gains_mono tail laid.gains)
  refine ⟨gains, laid.sound, ?_, ?_⟩
  · intro done
    obtain ⟨clear, paved⟩ := laid.done done
    refine ⟨?_, paved_cons (gains_folder gains here) paved⟩
    intro m member
    rcases List.mem_cons.mp member with rfl | later
    · exact no_file_in_folder here
    · rw [← gains_files gain]
      exact clear m later
  · intro clear
    have inside : Clear mid (way (stepTo l piece) ps) := by
      intro m member
      rw [gains_files gain]
      exact clear m (List.mem_cons_of_mem _ member)
    rw [laid.verdict inside, same]
    have files : obstacle mid (stepTo l piece) ps = obstacle t (stepTo l piece) ps :=
      obstacle_congr fun m _ => gains_files gain m
    rw [files]

theorem descend_laid (ps : List String) (sound : Sound t) (here : t.get? l = some .folder) :
    Laid t l ps (descendFrom t l ps) := by
  induction ps generalizing t l with
  | nil =>
    refine ⟨gains_refl _ t, sound, fun _ => ⟨?_, ?_⟩, fun _ => rfl⟩
    · intro m member
      rw [List.mem_singleton.mp member]
      exact no_file_in_folder here
    · intro m member
      rw [List.mem_singleton.mp member]
      exact here
  | cons piece more ih =>
    by_cases step : piece = "." ∨ piece = ".."
    · rw [descend_step step]
      exact laid_cons here (gains_refl _ t) (ih sound (step_folder sound here step)) (if_pos step)
    · rw [descend_name step]
      have place := step_name (l := l) step
      cases long : tooLong piece with
      | true => exact laid_stopped sound fun _ => by rw [obstacle, if_neg step, if_pos long]
      | false =>
        have onward : holdsFile t (l ++ [piece]) = false →
            obstacle t l (piece :: more) = obstacle t (stepTo l piece) more := by
          intro free
          rw [obstacle, if_neg step, long, free, place]
          rfl
        have there : l ++ [piece] ∈ way l (piece :: more) := by
          rw [← place]
          exact List.mem_cons_of_mem _ (way_start _ _)
        cases found : t.get? (l ++ [piece]) with
        | none =>
          have made := get_add (t := t) (l := l ++ [piece]) (by simp) .folder
          have gain := gains_set found rfl made
          have folder : (t.add (l ++ [piece]) .folder).get? (l ++ [piece]) = some .folder := by
            rw [made, if_pos rfl]
          have rest := ih (sound_add sound here) folder
          rw [← place] at gain rest
          exact laid_cons here gain (by simpa [place] using rest) (onward (no_file_missing found))
        | some node =>
          cases node with
          | folder =>
            have rest := ih sound found
            rw [← place] at rest
            exact laid_cons here (gains_refl _ t) (by simpa [place] using rest)
              (onward (no_file_in_folder found))
          | file content =>
            apply laid_stopped sound
            intro clear
            have free := clear _ there
            rw [file_at found] at free
            cases free

/-- Dots on the way change nothing. -/
theorem laid_dots {result : Except IoFault Unit × FileTree} (laid : Laid t l (ps.filter (· != ".")) result) :
    Laid t l ps result := by
  have through := (way_dots l ps).2
  refine ⟨gains_mono (fun m => (through m).mp) laid.gains, laid.sound, ?_, ?_⟩
  · intro done
    obtain ⟨clear, paved⟩ := laid.done done
    exact ⟨fun m member => clear m ((through m).mpr member), fun m member => paved m ((through m).mpr member)⟩
  · intro clear
    rw [laid.verdict fun m member => clear m ((through m).mp member), obstacle_dots]

end Descending

section Making

/-- What stops an entry of a folder from becoming a folder too. -/
def entryRefusal (t : FileTree) (up : Location) (name : String) : Option IoFault :=
  if tooLong name then some .nameTooLong
  else if holdsFile t (up ++ [name]) then some .present
  else none

private structure Entered (t : FileTree) (up : Location) (name : String)
    (result : Except IoFault Unit × FileTree) : Prop where
  reply : result.1 = (entryRefusal t up name).elim (.ok ()) .error
  sound : Sound result.2
  gains : Gains [up ++ [name]] t result.2
  done : result.1 = .ok () → result.2.get? (up ++ [name]) = some .folder
  failed : result.1 ≠ .ok () → result.2 = t

private theorem ensure_blocked (name : String) {e : IoFault} (led : t.followFolder l ps = .error e)
    (other : e ≠ .present) :
    t.ensureFolder l (ps ++ [name]) = (.error e, t) := by
  have made : t.makeFolder l (ps ++ [name]) = (.error e, t) := by
    simp only [makeFolder, List.getLast?_concat, List.dropLast_concat, led]
  rw [ensureFolder, made]
  simp [other]

private theorem entry_leads (led : t.followFolder l ps = .ok m) (down : ¬ (name = "." ∨ name = ".."))
    (fits : tooLong name = false) (there : t.get? (m ++ [name]) ≠ none) :
    t.leadsToFolder l (ps ++ [name]) = !holdsFile t (m ++ [name]) := by
  have through := follow_through led ([name] ++ ["."])
  rw [leadsToFolder, followFolder, List.append_assoc, through, List.singleton_append, follow_name down, fits]
  cases found : t.get? (m ++ [name]) with
  | none => exact absurd found there
  | some node =>
    cases node with
    | folder => rw [no_file_in_folder found, follow_step (.inl rfl)]; rfl
    | file content => rw [file_at found]; rfl

private theorem ensure_entered (sound : Sound t) (led : t.followFolder l ps = .ok m)
    (here : t.get? m = some .folder) (component : IsComponent name) :
    Entered t m name (t.ensureFolder l (ps ++ [name])) := by
  have down := component_down component
  have names : (name = "." || name = "..") = false := by simpa using down
  rw [ensureFolder, makeFolder, List.getLast?_concat, List.dropLast_concat]
  simp only [led, names]
  cases long : tooLong name with
  | true =>
    have refused : entryRefusal t m name = some .nameTooLong := if_pos long
    exact ⟨by rw [refused]; rfl, sound, gains_refl _ t, nofun, fun _ => rfl⟩
  | false =>
    cases found : t.get? (m ++ [name]) with
    | none =>
      have free : entryRefusal t m name = none := by
        rw [entryRefusal, long, no_file_missing found]
        rfl
      have set := get_put (t := t) (l := m ++ [name]) (by simp) .folder
      refine ⟨by rw [free]; rfl, sound_put sound here (.inl rfl), gains_set found rfl set, fun _ => ?_, ?_⟩
      · exact (set _).trans (if_pos rfl)
      · exact fun stopped => absurd rfl stopped
    | some node =>
      have leads := entry_leads led down long (by simp [found])
      cases node with
      | folder =>
        rw [no_file_in_folder found] at leads
        have free : entryRefusal t m name = none := by
          rw [entryRefusal, long, no_file_in_folder found]
          rfl
        simp only [leads]
        exact ⟨by rw [free]; rfl, sound, gains_refl _ t, fun _ => found, fun _ => rfl⟩
      | file content =>
        rw [file_at found] at leads
        have refused : entryRefusal t m name = some .present := by
          rw [entryRefusal, long, file_at found]
          rfl
        simp only [leads]
        exact ⟨by rw [refused]; rfl, sound, gains_refl _ t, nofun, fun _ => rfl⟩

/-- The locations that the path of a root leads through. -/
def ground (cwd : Location) (root : String) : List Location :=
  way (start cwd root) (Path.pieces root)

/-- Where a root with an entry leads. -/
def place (cwd : Location) (root name : String) : Location :=
  reach (start cwd root) (Path.pieces root) ++ [name]

/-- Why the folder of an entry below a root cannot be made. -/
def refusal (t : FileTree) (cwd : Location) (root name : String) : Option IoFault :=
  if hasNul (Path.join root name) then some .badPath
  else if pathTooLong (Path.join root name) then some .nameTooLong
  else (obstacle t (start cwd root) (Path.pieces root)).or
    (entryRefusal t (reach (start cwd root) (Path.pieces root)) name)

/-- What becomes of a tree when the folder of an entry below a root is made. -/
structure Made (t : FileTree) (cwd : Location) (root name : String) (result : Except IoFault Unit × FileTree) :
    Prop where
  sound : Sound result.2
  gains : Gains (place cwd root name :: ground cwd root) t result.2
  clear : result.1 = .ok () → Clear t (ground cwd root)
  done : result.1 = .ok () →
    Paved result.2 (ground cwd root) ∧ result.2.get? (place cwd root name) = some .folder
  failed : result.1 ≠ .ok () → result.2.get? (place cwd root name) = t.get? (place cwd root name)
  reply : Steady t (ground cwd root) → result.1 = (refusal t cwd root name).elim (.ok ()) .error

variable {cwd : Location} {root : String} {mid : FileTree} {result : Except IoFault Unit × FileTree}

private theorem made_stopped {e : IoFault} (sound : Sound after) (gains : Gains (ground cwd root) t after)
    (apart : place cwd root name ∉ ground cwd root)
    (refused : Steady t (ground cwd root) → refusal t cwd root name = some e) :
    Made t cwd root name (.error e, after) := by
  refine ⟨sound, gains_mono (List.subset_cons_self _ _) gains, nofun, nofun, fun _ => ?_, fun steady => ?_⟩
  · exact gains_elsewhere gains apart
  · rw [refused steady]
    rfl

private theorem made_entered (gains : Gains (ground cwd root) t mid) (paved : Paved mid (ground cwd root))
    (same : refusal t cwd root name = entryRefusal mid (reach (start cwd root) (Path.pieces root)) name)
    (entered : Entered mid (reach (start cwd root) (Path.pieces root)) name result)
    (apart : place cwd root name ∉ ground cwd root) : Made t cwd root name result := by
  have front : [place cwd root name] ⊆ place cwd root name :: ground cwd root := by simp
  have rest : ground cwd root ⊆ place cwd root name :: ground cwd root := List.subset_cons_self _ _
  refine ⟨entered.sound, gains_trans (gains_mono rest gains) (gains_mono front entered.gains), ?_, ?_, ?_, ?_⟩
  · intro _ m member
    rw [← gains_files gains]
    exact no_file_in_folder (paved m member)
  · intro done
    exact ⟨fun m member => gains_folder entered.gains (paved m member), entered.done done⟩
  · intro stopped
    rw [entered.failed stopped]
    exact gains_elsewhere gains apart
  · intro _
    rw [same]
    exact entered.reply

private theorem folders_eq (component : IsComponent name) (plain : hasNul (Path.join root name) = false)
    (short : pathTooLong (Path.join root name) = false) :
    t.makeFolders cwd (Path.join root name) =
      match t.ensureFolder (start cwd root) (Path.pieces root ++ [name]) with
      | (.error .notFound, _) =>
        match descendFrom t (start cwd root) ((Path.pieces root).filter (· != ".")) with
        | (.error e, after) => (.error e, after)
        | (.ok _, after) => after.ensureFolder (start cwd root) (Path.pieces root ++ [name])
      | result => result := by
  have front : (Path.pieces root ++ [name]).filter (· != ".") = (Path.pieces root).filter (· != ".") ++ [name] := by
    simp [List.filter_append, component.moves.1]
  have filled : (Path.pieces root ++ [name]).isEmpty = false := by simp
  rw [makeFolders, plain, short]
  simp only [pieces_join root component, start_join cwd component, front, filled, List.dropLast_concat, descendFrom]
  rfl

private theorem folders_direct (component : IsComponent name) (plain : hasNul (Path.join root name) = false)
    (short : pathTooLong (Path.join root name) = false)
    (found : (t.ensureFolder (start cwd root) (Path.pieces root ++ [name])).1 ≠ .error .notFound) :
    t.makeFolders cwd (Path.join root name) = t.ensureFolder (start cwd root) (Path.pieces root ++ [name]) := by
  rw [folders_eq component plain short]
  split
  · rename_i missing
    rw [missing] at found
    exact absurd rfl found
  · rfl

private theorem entry_refusal_found (t : FileTree) (up : Location) (name : String) :
    (entryRefusal t up name).elim (.ok ()) .error ≠ (.error .notFound : Except IoFault Unit) := by
  rw [entryRefusal]
  cases tooLong name <;> cases holdsFile t (up ++ [name]) <;> nofun

private theorem entry_refusal_gains (gains : Gains places t mid) (up : Location) (name : String) :
    entryRefusal mid up name = entryRefusal t up name := by
  rw [entryRefusal, entryRefusal, gains_files gains]

private theorem stopped_obstacle {α : Type} {a : α} {e : IoFault} {stop : Option IoFault}
    (verdict : (.error e : Except IoFault α) = stop.elim (.ok a) .error) : stop = some e := by
  cases stop with
  | none => cases verdict
  | some other =>
    cases verdict
    rfl

private theorem open_obstacle {α : Type} {a b : α} {stop : Option IoFault}
    (verdict : (.ok b : Except IoFault α) = stop.elim (.ok a) .error) : stop = none ∧ b = a := by
  cases stop with
  | none =>
    cases verdict
    exact ⟨rfl, rfl⟩
  | some other => cases verdict

/-- What making the folder of an entry does, where the way to it does not lead through
the entry itself. -/
theorem make_folders_made (sound : Sound t) (here : t.get? (start cwd root) = some .folder)
    (component : IsComponent name) (apart : place cwd root name ∉ ground cwd root) :
    Made t cwd root name (t.makeFolders cwd (Path.join root name)) := by
  cases plain : hasNul (Path.join root name) with
  | true =>
    rw [makeFolders, if_pos plain]
    exact made_stopped sound (gains_refl _ t) apart fun _ => if_pos plain
  | false =>
    cases short : pathTooLong (Path.join root name) with
    | true =>
      rw [makeFolders, plain, if_pos short]
      refine made_stopped sound (gains_refl _ t) apart fun _ => ?_
      rw [refusal, plain, short]
      rfl
    | false =>
      have cause : refusal t cwd root name = (obstacle t (start cwd root) (Path.pieces root)).or
          (entryRefusal t (reach (start cwd root) (Path.pieces root)) name) := by
        rw [refusal, plain, short]
        rfl
      cases led : t.followFolder (start cwd root) (Path.pieces root) with
      | ok m =>
        have paved := folder_paved sound here led
        obtain ⟨clear, rfl⟩ := open_obstacle (led.symm.trans (paved_verdict paved))
        have entered := ensure_entered sound led (paved _ (reach_in_way _ _)) component
        have found := entry_refusal_found t (reach (start cwd root) (Path.pieces root)) name
        rw [← entered.reply] at found
        rw [folders_direct component plain short found]
        rw [clear, Option.none_or] at cause
        exact made_entered (gains_refl _ t) paved cause entered apart
      | error e =>
        rcases folder_verdict t (start cwd root) (Path.pieces root) with missing | blocked
        · -- The folders on the way have to be made first; then the entry is tried again.
          obtain rfl : e = .notFound := by simpa [led] using missing
          have laid := laid_dots (descend_laid ((Path.pieces root).filter (· != ".")) sound here)
          rw [folders_eq component plain short, ensure_blocked name led nofun]
          dsimp only
          generalize descendFrom t (start cwd root) ((Path.pieces root).filter (· != ".")) = result at laid
          obtain ⟨reply, mid⟩ := result
          cases reply with
          | error e =>
            refine made_stopped laid.sound laid.gains apart fun steady => ?_
            have verdict := laid.verdict (missing_clear sound here steady led)
            rw [cause, stopped_obstacle verdict]
            rfl
          | ok _ =>
            obtain ⟨clear, paved⟩ := laid.done rfl
            have free := (open_obstacle (laid.verdict clear)).1
            have again := paved_verdict paved
            rw [obstacle_congr fun m _ => gains_files laid.gains m, free] at again
            have entered := ensure_entered laid.sound again (paved _ (reach_in_way _ _)) component
            rw [free, Option.none_or, ← entry_refusal_gains laid.gains] at cause
            exact made_entered laid.gains paved cause entered apart
        · have stops := stopped_obstacle (led.symm.trans blocked)
          have known : e ≠ .present ∧ e ≠ .notFound := by
            rcases obstacle_kind stops with rfl | rfl <;> exact ⟨nofun, nofun⟩
          have tried := ensure_blocked name led known.1
          rw [folders_direct component plain short (by rw [tried]; simpa using known.2), tried]
          refine made_stopped sound (gains_refl _ t) apart fun _ => ?_
          rw [cause, stops]
          rfl

theorem made_free (made : Made t cwd root name result) (done : result.1 = .ok ()) :
    refusal t cwd root name = none := by
  have reply := made.reply (steady_clear (made.clear done))
  rw [done] at reply
  exact (open_obstacle reply).1

theorem made_refused {e : IoFault} (made : Made t cwd root name result) (stopped : result.1 = .error e)
    (steady : Steady t (ground cwd root)) : refusal t cwd root name = some e := by
  have reply := made.reply steady
  rw [stopped] at reply
  exact stopped_obstacle reply

theorem refusal_congr (way : ∀ m ∈ ground cwd root, holdsFile t m = holdsFile s m)
    (entry : t.get? (place cwd root name) = s.get? (place cwd root name)) :
    refusal t cwd root name = refusal s cwd root name := by
  rw [place] at entry
  rw [refusal, refusal, obstacle_congr way, entryRefusal, entryRefusal, holdsFile, holdsFile, entry]

theorem free_path (free : refusal t cwd root name = none) :
    hasNul (Path.join root name) = false ∧ pathTooLong (Path.join root name) = false ∧
      obstacle t (start cwd root) (Path.pieces root) = none ∧ tooLong name = false := by
  rw [refusal] at free
  split at free
  · cases free
  · rename_i plain
    split at free
    · cases free
    · rename_i short
      obtain ⟨clear, entry⟩ := Option.or_eq_none_iff.mp free
      rw [entryRefusal] at entry
      split at entry
      · cases entry
      · rename_i fits
        exact ⟨by simpa using plain, by simpa using short, clear, by simpa using fits⟩

end Making

end Tabscript.FolderMaking
