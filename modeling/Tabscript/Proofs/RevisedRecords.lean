import Mathlib.Data.List.Basic
import Tabscript.Proofs.WrittenJson

/-! Records read from texts that were edited.

Members of an object may be taken out of its text, at any depth, and members with names that
the object does not have may be put in. A record that is read from such a text passes over
what was put in, and leaves the fields that were taken out as they were before. -/
namespace Tabscript.RevisedRecords
open Json JsonTexts WrittenJson

/-- What a choice of paths chooses below a member. -/
def below (keep : List String → Bool) (key : String) (path : List String) : Bool :=
  keep (key :: path)

mutual

/-- A value of which only the chosen members are kept, with any members of unknown names
beside them, and what a reader finds in its text. -/
inductive Revised : (List String → Bool) → Json → Draft → Prop where
  | whole {keep : List String → Bool} {v : Json} (plain : ∀ members, v ≠ .object members) : Revised keep v (draft v)
  | object {keep : List String → Bool} {members : List (String × Json)} {ms : List (Name × Draft)}
    (inside : RevisedMembers keep (members.map Prod.fst) members ms) : Revised keep (.object members) (.object ms none)

inductive RevisedMembers : (List String → Bool) → List String → List (String × Json) → List (Name × Draft) → Prop where
  | nil {keep : List String → Bool} {known : List String} : RevisedMembers keep known [] []
  | kept {keep : List String → Bool} {known : List String} {key : String} {v : Json} {d : Draft}
    {members : List (String × Json)} {ms : List (Name × Draft)} (chosen : keep [key] = true)
    (value : Revised (below keep key) v d) (others : RevisedMembers keep known members ms) :
    RevisedMembers keep known ((key, v) :: members) ((.text (.ok key), d) :: ms)
  | removed {keep : List String → Bool} {known : List String} {key : String} {v : Json}
    {members : List (String × Json)} {ms : List (Name × Draft)} (dropped : keep [key] = false)
    (others : RevisedMembers keep known members ms) : RevisedMembers keep known ((key, v) :: members) ms
  | added {keep : List String → Bool} {known : List String} {key : String} {d : Draft}
    {members : List (String × Json)} {ms : List (Name × Draft)} (unknown : key ∉ known)
    (others : RevisedMembers keep known members ms) : RevisedMembers keep known members ((.text (.ok key), d) :: ms)

end

mutual

/-- A value with the chosen members alone. -/
def thin (keep : List String → Bool) : Json → Json
  | .object members => .object (thinMembers keep members)
  | v => v

def thinMembers (keep : List String → Bool) : List (String × Json) → List (String × Json)
  | [] => []
  | (key, v) :: more =>
    if keep [key] then (key, thin (below keep key) v) :: thinMembers keep more else thinMembers keep more

end

section Thinning

mutual

theorem thin_revised (keep : List String → Bool) (v : Json) : Revised keep v (draft (thin keep v)) := by
  match v with
  | .object members =>
    rw [thin, draft]
    exact .object (thin_members_revised keep (members.map Prod.fst) members)
  | .null | .bool _ | .number _ | .string _ | .array _ =>
    rw [thin]
    · exact .whole (by simp)
    · simp

theorem thin_members_revised (keep : List String → Bool) (known : List String) (members : List (String × Json)) :
    RevisedMembers keep known members (draftMembers (thinMembers keep members)) := by
  match members with
  | [] =>
    rw [thinMembers, draftMembers]
    exact .nil
  | (key, v) :: more =>
    have others := thin_members_revised keep known more
    rw [thinMembers]
    split
    · rename_i chosen
      rw [draftMembers]
      exact .kept chosen (thin_revised (below keep key) v) others
    · rename_i dropped
      exact .removed (Bool.eq_false_iff.mpr dropped) others

end

mutual

theorem thin_all (v : Json) : thin (fun _ => true) v = v := by
  match v with
  | .object members => rw [thin, thin_all_members members]
  | .null | .bool _ | .number _ | .string _ | .array _ =>
    rw [thin]
    simp

theorem thin_all_members (members : List (String × Json)) : thinMembers (fun _ => true) members = members := by
  match members with
  | [] => rw [thinMembers]
  | (key, v) :: more =>
    have value : thin (below (fun _ => true) key) v = v := thin_all v
    rw [thinMembers, if_pos rfl, value, thin_all_members more]

end

end Thinning

section Reading

variable {α : Type} {r : Record α} {keep : List String → Bool}

/-- What a member does to a record if it is kept. It does nothing if it is not. -/
structure Lays (r : Record α) (keep : List String → Bool) (m : String × Json) (step : α → α) : Prop where
  kept : keep [m.1] = true → ∀ d, Revised (below keep m.1) m.2 d → d.skipFault = none → ∀ a,
    r.assign m.1 d a = .ok (step a)
  removed : keep [m.1] = false → ∀ a, step a = a

theorem read_added {key : String} {d : Draft} {more : List (Name × Draft)} {seen : List String} {a : α}
    (unlisted : r.field? key = none) (clean : d.skipFault = none) :
    r.readMembers seen a ((.text (.ok key), d) :: more) = r.readMembers seen a more := by
  rw [Record.readMembers]
  simp [Name.read, unlisted, clean]

theorem read_listed {key : String} {d : Draft} {more : List (Name × Draft)} {seen : List String} {a b : α}
    (listed : r.field? key = some key) (fresh : key ∉ seen) (assigned : r.assign key d a = .ok b) :
    r.readMembers seen a ((.text (.ok key), d) :: more) = r.readMembers (key :: seen) b more := by
  rw [Record.readMembers]
  simp [Name.read, listed, fresh, assigned]

/-- Members are read one after the other. -/
theorem read_members_revised {known : List String} (unlisted : ∀ key, key ∉ known → r.field? key = none)
    {members : List (String × Json)} {ms : List (Name × Draft)} (revised : RevisedMembers keep known members ms)
    (clean : Draft.skipMembers ms = none) {steps : List (α → α)} (lays : List.Forall₂ (Lays r keep) members steps)
    (distinct : (members.map Prod.fst).Nodup) {seen : List String}
    (fresh : ∀ m ∈ members, r.field? m.1 = some m.1 ∧ m.1 ∉ seen) (a : α) :
    ∃ all, r.readMembers seen a ms = .ok (steps.foldl (fun a step => step a) a, all) := by
  cases revised with
  | nil =>
    cases lays
    exact ⟨seen, rfl⟩
  | @kept _ _ key _ d later _ chosen value others =>
    rw [Draft.skipMembers, Option.or_eq_none_iff] at clean
    rw [List.map_cons, List.nodup_cons] at distinct
    obtain ⟨listed, new⟩ := fresh _ List.mem_cons_self
    cases lays with
    | @cons _ step _ _ first rest =>
      have unseen : ∀ m ∈ later, r.field? m.1 = some m.1 ∧ m.1 ∉ key :: seen := by
        intro m member
        obtain ⟨listed, new⟩ := fresh m (List.mem_cons_of_mem _ member)
        refine ⟨listed, List.not_mem_cons_of_ne_of_not_mem ?_ new⟩
        exact fun same => distinct.1 (List.mem_map.mpr ⟨m, member, same⟩)
      rw [read_listed listed new (first.kept chosen d value clean.1 a), List.foldl_cons]
      exact read_members_revised unlisted others clean.2 rest distinct.2 unseen (step a)
  | removed dropped others =>
    rw [List.map_cons, List.nodup_cons] at distinct
    cases lays with
    | cons first rest =>
      have unseen := fun m member => fresh m (List.mem_cons_of_mem _ member)
      rw [List.foldl_cons, first.removed dropped]
      exact read_members_revised unlisted others clean rest distinct.2 unseen a
  | added unknown others =>
    rw [Draft.skipMembers, Option.or_eq_none_iff] at clean
    rw [read_added (unlisted _ unknown) clean.1]
    exact read_members_revised unlisted others clean.2 lays distinct fresh a

/-- A record with the fields that an object has is read from what is left of the object. -/
theorem read_revised {members : List (String × Json)} {d : Draft} (revised : Revised keep (.object members) d)
    (clean : d.skipFault = none)
    (listed : ∀ key, r.field? key = if (members.map Prod.fst).contains key then some key else none)
    (distinct : (members.map Prod.fst).Nodup) {steps : List (α → α)} (lays : List.Forall₂ (Lays r keep) members steps)
    (start : α) : (r.read start d).map Prod.fst = .ok (steps.foldl (fun a step => step a) start) := by
  cases revised with
  | whole plain => exact absurd rfl (plain members)
  | object inside =>
    rw [Draft.skipFault, Option.map_none, Option.or_none] at clean
    have unlisted (key : String) (unknown : key ∉ members.map Prod.fst) : r.field? key = none := by
      rw [listed, if_neg (fun found => unknown (List.contains_iff_mem.mp found))]
    have fresh (m : String × Json) (member : m ∈ members) : r.field? m.1 = some m.1 ∧ m.1 ∉ [] := by
      rw [listed, if_pos (List.contains_iff_mem.mpr (List.mem_map_of_mem member))]
      exact ⟨rfl, List.not_mem_nil⟩
    obtain ⟨all, read⟩ := read_members_revised unlisted inside clean lays distinct fresh start
    simp only [Record.read, read]
    rfl

end Reading

end Tabscript.RevisedRecords
