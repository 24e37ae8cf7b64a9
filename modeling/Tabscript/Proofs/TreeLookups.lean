import Mathlib.Data.List.Infix
import Tabscript.FileTree

/-! A tree of files through its lookups. What an operation does to a tree is said by
what stands at each location afterwards; the lists behind the lookups, and the views
that are carried along a path, are met only here. -/
namespace Tabscript.TreeLookups
open FileTree

variable {t : FileTree} {l k : Location} {node : Node}

@[simp] theorem get_root (t : FileTree) : t.get? [] = some .folder := rfl

theorem get_inner (t : FileTree) (inner : l ≠ []) : t.get? l = t.nodes.lookup l :=
  if_neg inner

private theorem lookup_kept (keep : Location → Bool) (nodes : List (Location × Node)) (k : Location) :
    (nodes.filter fun (place, _) => keep place).lookup k = if keep k then nodes.lookup k else none := by
  induction nodes with
  | nil => simp
  | cons first more ih =>
    obtain ⟨place, node⟩ := first
    by_cases same : k = place
    · subst same
      cases kept : keep k <;> simp [kept, ih]
    · have other : (k == place) = false := beq_eq_false_iff_ne.mpr same
      cases kept : keep place <;> simp [List.lookup_cons, kept, other, ih]

private theorem get_front {nodes : List (Location × Node)} (inner : l ≠ [])
    (rest : ∀ k, k ≠ l → nodes.lookup k = t.nodes.lookup k) (k : Location) :
    (FileTree.mk ((l, node) :: nodes)).get? k = if k = l then some node else t.get? k := by
  by_cases top : k = []
  · rw [top, if_neg inner.symm, get_root, get_root]
  · rw [get_inner _ top, get_inner _ top, List.lookup_cons]
    by_cases same : k = l
    · simp [same]
    · have other : (k == l) = false := beq_eq_false_iff_ne.mpr same
      simp [same, other, rest]

@[simp] theorem get_put (inner : l ≠ []) (node : Node) (k : Location) :
    (t.put l node).get? k = if k = l then some node else t.get? k := by
  apply get_front inner
  intro k apart
  rw [lookup_kept fun place => place != l]
  simp [apart]

@[simp] theorem get_add (inner : l ≠ []) (node : Node) (k : Location) :
    (t.add l node).get? k = if k = l then some node else t.get? k :=
  get_front inner (fun _ _ => rfl) k

@[simp] theorem get_prune (inner : l ≠ []) (k : Location) :
    (t.prune l).get? k = if l <+: k then none else t.get? k := by
  by_cases top : k = []
  · rw [top, get_root, get_root, if_neg fun above => inner (List.prefix_nil.mp above)]
  · rw [get_inner _ top, get_inner _ top, prune, lookup_kept fun place => !l.isPrefixOf place]
    by_cases above : l <+: k
    · simp [List.isPrefixOf_iff_prefix.mpr above, above]
    · have out : l.isPrefixOf k = false := Bool.eq_false_iff.mpr (mt List.isPrefixOf_iff_prefix.mp above)
      simp [out, above]

section Views

variable {view : List (Location × Node)}

/-- The view tells what is below a location. -/
def Sees (t : FileTree) (l : Location) (view : List (Location × Node)) : Prop :=
  ∀ k, k ≠ [] → view.lookup k = t.get? (l ++ k)

@[simp] theorem enter_lookup (name : String) (view : List (Location × Node)) (k : Location) :
    (enter name view).lookup k = view.lookup (name :: k) := by
  induction view with
  | nil => rfl
  | cons first more ih =>
    obtain ⟨place, node⟩ := first
    cases place with
    | nil => simpa [enter, List.lookup_cons] using ih
    | cons head rest =>
      by_cases same : head = name
      · subst same
        by_cases here : k = rest
        · subst here
          simp [enter]
        · have other : (k == rest) = false := beq_eq_false_iff_ne.mpr here
          have apart : (head :: k == head :: rest) = false := by simp [here]
          simpa [enter, List.lookup_cons, other, apart] using ih
      · have apart : (name :: k == head :: rest) = false := by simp [Ne.symm same]
        simpa [enter, List.lookup_cons, same, apart] using ih

theorem below_sees (t : FileTree) (l : Location) : Sees t l (t.below l) := by
  intro k inner
  have far : l ++ k ≠ [] := by simp [inner]
  rw [get_inner _ far, below]
  induction t.nodes with
  | nil => rfl
  | cons first more ih =>
    obtain ⟨place, node⟩ := first
    by_cases same : l ++ k = place
    · subst same
      have deeper : 0 < k.length := List.length_pos_iff.mpr inner
      simp [deeper]
    · have apart : (l ++ k == place) = false := beq_eq_false_iff_ne.mpr same
      rw [List.lookup_cons, apart, List.filterMap_cons]
      by_cases under : l.isPrefixOf place && l.length < place.length
      · have other : (k == place.drop l.length) = false := by
          apply beq_eq_false_iff_ne.mpr
          rintro rfl
          obtain ⟨rest, rfl⟩ := List.isPrefixOf_iff_prefix.mp (Bool.and_eq_true_iff.mp under).1
          simp at same
        simp only [under, if_true, List.lookup_cons, other]
        exact ih
      · simp only [under]
        exact ih

theorem sees_enter (sees : Sees t l view) (name : String) : Sees t (l ++ [name]) (enter name view) := by
  intro k inner
  rw [enter_lookup, sees (name :: k) (by simp), List.append_assoc]
  rfl

theorem enter_here (sees : Sees t l view) (name : String) :
    (enter name view).lookup [] = t.get? (l ++ [name]) := by
  rw [enter_lookup, sees [name] (by simp)]

end Views

/-- What stands anywhere stands in a folder. -/
def Sound (t : FileTree) : Prop :=
  ∀ l name, t.get? (l ++ [name]) ≠ none → t.get? l = some .folder

section Soundness

variable {name : String}

theorem empty_missing (l : Location) (name : String) : empty.get? (l ++ [name]) = none := by
  rw [get_inner _ (by simp)]
  rfl

theorem empty_sound : Sound empty :=
  fun l name there => absurd (empty_missing l name) there

theorem folder_above (sound : Sound t) (above : k <+: l) (there : t.get? l ≠ none) (apart : k ≠ l) :
    t.get? k = some .folder := by
  obtain ⟨rest, rfl⟩ := above
  induction rest using List.reverseRecOn with
  | nil => simp at apart
  | append_singleton front name ih =>
    rw [← List.append_assoc] at there
    have parent := sound (k ++ front) name there
    by_cases top : front = []
    · simpa [top] using parent
    · exact ih (by simp [parent]) (by simp [top])

theorem nothing_below (sound : Sound t) (other : t.get? l ≠ some .folder) (above : l <+: k) (apart : l ≠ k) :
    t.get? k = none := by
  by_contra there
  exact other (folder_above sound above there apart)

theorem parent_folder (sound : Sound t) (here : t.get? l = some .folder) : t.get? l.dropLast = some .folder := by
  rcases List.eq_nil_or_concat l with rfl | ⟨front, name, rfl⟩
  · rfl
  · rw [List.concat_eq_append] at here ⊢
    rw [List.dropLast_concat]
    exact sound front name (by simp [here])

private theorem sound_set {after : FileTree} (sound : Sound t) (here : t.get? l = some .folder)
    (fits : node = .folder ∨ t.get? (l ++ [name]) ≠ some .folder)
    (set : ∀ k, after.get? k = if k = l ++ [name] then some node else t.get? k) : Sound after := by
  intro k child there
  rw [set] at there ⊢
  by_cases target : k = l ++ [name]
  · -- Below the node only a folder may hold anything.
    rw [if_pos target]
    rcases fits with folder | other
    · rw [folder]
    · have beneath : k ++ [child] ≠ l ++ [name] := by
        intro same
        rw [target] at same
        simp at same
      rw [if_neg beneath] at there
      have filled := sound k child there
      rw [target] at filled
      exact absurd filled other
  · rw [if_neg target]
    by_cases made : k ++ [child] = l ++ [name]
    · rw [(List.append_inj' made rfl).1]
      exact here
    · rw [if_neg made] at there
      exact sound k child there

theorem sound_put (sound : Sound t) (here : t.get? l = some .folder)
    (fits : node = .folder ∨ t.get? (l ++ [name]) ≠ some .folder) : Sound (t.put (l ++ [name]) node) :=
  sound_set sound here fits (get_put (by simp) node)

theorem sound_add (sound : Sound t) (here : t.get? l = some .folder) : Sound (t.add (l ++ [name]) .folder) :=
  sound_set sound here (.inl rfl) (get_add (by simp) .folder)

theorem sound_prune (sound : Sound t) (inner : l ≠ []) : Sound (t.prune l) := by
  intro k name there
  rw [get_prune inner] at there ⊢
  by_cases removed : l <+: k ++ [name]
  · rw [if_pos removed] at there
    exact absurd rfl there
  · have kept : ¬ l <+: k := fun above => removed (above.trans (List.prefix_append k [name]))
    rw [if_neg removed] at there
    rw [if_neg kept]
    exact sound k name there

end Soundness

end Tabscript.TreeLookups
