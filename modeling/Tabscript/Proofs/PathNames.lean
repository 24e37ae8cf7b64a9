import Mathlib.Data.List.Basic
import Tabscript.FileTree

/-! Paths and the names they are made of. A path that is put together from names is
taken apart into the same names again, whichever way its slashes were written. -/
namespace Tabscript.PathNames
open Tabscript.Path

/-- A single component of a path: a text without a slash that is neither empty nor a
step to the folder itself or to the one above. -/
structure IsComponent (name : String) : Prop where
  filled : name ≠ ""
  moves : name ≠ "." ∧ name ≠ ".."
  undivided : '/' ∉ name.toList

instance (name : String) : Decidable (IsComponent name) :=
  decidable_of_iff (name ≠ "" ∧ (name ≠ "." ∧ name ≠ "..") ∧ '/' ∉ name.toList)
    ⟨fun ⟨filled, moves, undivided⟩ => ⟨filled, moves, undivided⟩,
      fun component => ⟨component.filled, component.moves, component.undivided⟩⟩

section Splitting

variable {held cs ds : List Char}

theorem split_slash (held cs ds : List Char) :
    splitFrom held (cs ++ '/' :: ds) = splitFrom held cs ++ splitFrom [] ds := by
  induction cs generalizing held with
  | nil => simp [splitFrom]
  | cons c more ih =>
    by_cases slash : c = '/'
    · simp [splitFrom, slash, ih]
    · simp [splitFrom, slash, ih]

theorem split_undivided (undivided : '/' ∉ cs) : splitFrom held cs = [held.reverse ++ cs] := by
  induction cs generalizing held with
  | nil => simp [splitFrom]
  | cons c more ih =>
    have other : c ≠ '/' := fun same => undivided (by simp [same])
    rw [splitFrom, if_neg other, ih fun inside => undivided (List.mem_cons_of_mem _ inside)]
    simp

private theorem split_pieces_undivided {piece : List Char} (clean : '/' ∉ held)
    (member : piece ∈ splitFrom held cs) : '/' ∉ piece := by
  induction cs generalizing held with
  | nil =>
    rw [splitFrom, List.mem_singleton] at member
    simpa [member] using clean
  | cons c more ih =>
    rw [splitFrom] at member
    split at member
    · rcases List.mem_cons.mp member with rfl | later
      · simpa using clean
      · exact ih (by simp) later
    · rename_i other
      refine ih ?_ member
      rw [List.mem_cons]
      rintro (same | inside)
      · exact other same.symm
      · exact clean inside

end Splitting

variable {root name : String}

theorem pieces_slash (front back : String) : pieces (front ++ "/" ++ back) = pieces front ++ pieces back := by
  have spelled : (front ++ "/" ++ back).toList = front.toList ++ '/' :: back.toList := by simp
  rw [pieces, spelled, split_slash, List.filter_append, List.map_append]
  rfl

theorem pieces_component (component : IsComponent name) : pieces name = [name] := by
  have filled : name.toList.isEmpty = false := by simp [component.filled]
  rw [pieces, split_undivided component.undivided]
  simp [filled]

/-- A piece is a step or a component. -/
theorem piece_component {piece : String} (member : piece ∈ pieces root)
    (moves : piece ≠ "." ∧ piece ≠ "..") : IsComponent piece := by
  obtain ⟨chars, inside, rfl⟩ := List.mem_map.mp member
  obtain ⟨split, filled⟩ := List.mem_filter.mp inside
  refine ⟨?_, moves, ?_⟩
  · intro empty
    have none : chars = [] := by simpa using congrArg String.toList empty
    simp [none] at filled
  · rw [String.toList_ofList]
    exact split_pieces_undivided (by simp) split

theorem component_relative (component : IsComponent name) : isAbsolute name = false := by
  apply Bool.eq_false_iff.mpr
  intro absolute
  have first : name.toList.head? = some '/' := by simpa [isAbsolute] using absolute
  exact component.undivided (List.mem_of_mem_head? first)

private theorem component_unclosed (component : IsComponent name) : endsInSlash name = false := by
  apply Bool.eq_false_iff.mpr
  intro closes
  have last : name.toList.getLast? = some '/' := by simpa [endsInSlash] using closes
  exact component.undivided (List.mem_of_getLast? last)

private theorem slash_off (closes : endsInSlash root = true) : ∃ front, root = front ++ "/" ++ "" := by
  have last : root.toList.getLast? = some '/' := by simpa [endsInSlash] using closes
  obtain ⟨front, spelled⟩ := List.getLast?_eq_some_iff.mp last
  refine ⟨String.ofList front, ?_⟩
  apply String.toList_inj.mp
  simp [spelled]

/-- A path below a folder has the pieces of the folder and one more. -/
@[simp] theorem pieces_join (root : String) (component : IsComponent name) :
    pieces (join root name) = pieces root ++ [name] := by
  rw [← pieces_component component, join, component_relative component]
  split
  · rename_i impossible
    cases impossible
  · split
    · rename_i bare
      rcases Bool.or_eq_true_iff.mp bare with empty | closes
      · have none : root = "" := String.isEmpty_iff.mp empty
        rw [none]
        simp [pieces, splitFrom]
      · obtain ⟨front, rfl⟩ := slash_off closes
        rw [String.append_empty, pieces_slash]
        have whole := pieces_slash front ""
        rw [String.append_empty] at whole
        rw [whole]
        simp [pieces, splitFrom]
    · exact pieces_slash root name

@[simp] theorem join_start (component : IsComponent name) : isAbsolute (join root name) = isAbsolute root := by
  rw [join, component_relative component]
  by_cases empty : root = ""
  · have relative := component_relative component
    simpa [empty, isAbsolute] using relative
  · have filled : root.toList ≠ [] := by simpa using empty
    obtain ⟨first, more, spelled⟩ := List.exists_cons_of_ne_nil filled
    split
    · rename_i impossible
      cases impossible
    · split <;> simp [isAbsolute, spelled]

private theorem join_tail (root : String) (component : IsComponent name) : ∃ front, join root name = front ++ name := by
  rw [join, component_relative component]
  split
  · rename_i impossible
    cases impossible
  · split
    · exact ⟨root, rfl⟩
    · exact ⟨root ++ "/", rfl⟩

theorem join_front (root : String) (component : IsComponent name) : ∃ back, join root name = root ++ back := by
  rw [join, component_relative component]
  split
  · rename_i impossible
    cases impossible
  · split
    · exact ⟨name, rfl⟩
    · exact ⟨"/" ++ name, String.append_assoc⟩

private theorem tail_unclosed {path front : String} (component : IsComponent name) (spelled : path = front ++ name) :
    endsInSlash path = false := by
  have filled : name.toList ≠ [] := by simpa using component.filled
  have last := component_unclosed component
  rw [endsInSlash] at last ⊢
  rw [spelled, String.toList_append, List.getLast?_append_of_ne_nil _ filled]
  exact last

@[simp] theorem join_unclosed (component : IsComponent name) : endsInSlash (join root name) = false := by
  obtain ⟨front, spelled⟩ := join_tail root component
  exact tail_unclosed component spelled

@[simp] theorem join_filled (component : IsComponent name) : (join root name).isEmpty = false := by
  apply Bool.eq_false_iff.mpr
  intro empty
  have none := pieces_join root component
  rw [String.isEmpty_iff.mp empty] at none
  simp [pieces, splitFrom] at none

@[simp] theorem start_join (cwd : Location) (component : IsComponent name) :
    FileTree.start cwd (join root name) = FileTree.start cwd root := by
  simp [FileTree.start, component]

@[simp] theorem steps_join (component : IsComponent name) :
    FileTree.steps (join root name) = pieces root ++ [name] := by
  simp [FileTree.steps, component]

section Absolute

variable {l : Location}

@[simp] theorem absolute_start (l : Location) : isAbsolute (FileTree.absolute l) = true := by
  simp [isAbsolute, FileTree.absolute]

@[simp] theorem start_absolute (cwd l : Location) : FileTree.start cwd (FileTree.absolute l) = [] := by
  simp [FileTree.start]

private theorem intercalate_cons (first second : String) (more : List String) :
    String.intercalate "/" (first :: second :: more) = first ++ "/" ++ String.intercalate "/" (second :: more) := by
  apply String.toList_inj.mp
  simp [String.toList_intercalate]

private theorem intercalate_one (name : String) : String.intercalate "/" [name] = name := by
  apply String.toList_inj.mp
  simp

private theorem pieces_intercalate (components : ∀ name ∈ l, IsComponent name) :
    pieces (String.intercalate "/" l) = l := by
  induction l with
  | nil => simp [pieces, splitFrom]
  | cons first more ih =>
    have head := pieces_component (components first (by simp))
    have tail := ih fun name member => components name (by simp [member])
    cases more with
    | nil => rw [intercalate_one, head]
    | cons second rest =>
      rw [intercalate_cons, pieces_slash, head, tail]
      rfl

/-- The absolute path of a location leads through the names of the location. -/
theorem pieces_absolute (components : ∀ name ∈ l, IsComponent name) :
    pieces (FileTree.absolute l) = l := by
  have split := pieces_slash "" (String.intercalate "/" l)
  rw [pieces_intercalate components] at split
  simpa [FileTree.absolute, pieces, splitFrom] using split

private theorem intercalate_concat (first : String) (more : List String) (name : String) :
    String.intercalate "/" (first :: (more ++ [name])) = String.intercalate "/" (first :: more) ++ "/" ++ name := by
  induction more generalizing first with
  | nil => rw [List.nil_append, intercalate_cons, intercalate_one, intercalate_one]
  | cons second rest ih =>
    rw [List.cons_append, intercalate_cons, ih, intercalate_cons]
    simp only [String.append_assoc]

private theorem absolute_concat (filled : l ≠ []) (name : String) :
    FileTree.absolute (l ++ [name]) = FileTree.absolute l ++ "/" ++ name := by
  obtain ⟨first, more, rfl⟩ := List.exists_cons_of_ne_nil filled
  rw [FileTree.absolute, FileTree.absolute, List.cons_append, intercalate_concat]
  simp only [String.append_assoc]

private theorem absolute_unclosed (components : ∀ name ∈ l, IsComponent name) (filled : l ≠ []) :
    endsInSlash (FileTree.absolute l) = false := by
  have last := components _ (List.getLast_mem filled)
  rw [← List.dropLast_append_getLast filled]
  by_cases top : l.dropLast = []
  · rw [top, List.nil_append, FileTree.absolute, intercalate_one]
    exact tail_unclosed last rfl
  · rw [absolute_concat top]
    exact tail_unclosed last rfl

/-- The absolute path of an entry is that of its folder with the name of the entry. -/
theorem absolute_join (components : ∀ name ∈ l, IsComponent name) (component : IsComponent name) :
    FileTree.absolute (l ++ [name]) = join (FileTree.absolute l) name := by
  have nonempty : (FileTree.absolute l).isEmpty = false := by
    simp [FileTree.absolute]
  rw [join, component_relative component, nonempty]
  by_cases top : l = []
  · subst top
    rw [List.nil_append, FileTree.absolute, intercalate_one]
    rfl
  · rw [absolute_unclosed components top]
    exact absolute_concat top name

end Absolute

end Tabscript.PathNames
