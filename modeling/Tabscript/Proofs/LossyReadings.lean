import Tabscript.Proofs.EncodedTexts

/-! Lossy readings of bytes that need not be a text.

A reading goes from left to right. A character is taken as it is written. Where none stands,
a piece is passed over and one replacement put for it: the bytes that could still have become
a character, as many as there are, and a single byte if no character begins with it. The
reading is stated with the characters' own bytes and does not mention the ranges that the
reader tests; every sequence of bytes has exactly one. -/
namespace Tabscript.LossyReadings
open Text EncodedTexts

/-- A piece that one replacement is put for, where it stands before the rest. -/
structure IllFormed (piece rest : List UInt8) : Prop where
  unread : ∀ ch, ¬ String.utf8EncodeChar ch <+: piece ++ rest
  given : piece ≠ []
  begun : piece.length = 1 ∨ Begins piece
  longest : ∀ longer, longer <+: piece ++ rest → Begins longer → longer.length ≤ piece.length

/-- What bytes read as. -/
inductive Lossy : List UInt8 → List Char → Prop where
  | nil : Lossy [] []
  | char (ch : Char) {rest : List UInt8} {text : List Char} (more : Lossy rest text) :
    Lossy (String.utf8EncodeChar ch ++ rest) (ch :: text)
  | piece {piece rest : List UInt8} {text : List Char} (ill : IllFormed piece rest) (more : Lossy rest text) :
    Lossy (piece ++ rest) ('�' :: text)

section Unique

variable {bytes piece other rest back : List UInt8} {ch dh : Char}

private theorem char_ahead (same : String.utf8EncodeChar ch ++ rest = String.utf8EncodeChar dh ++ back) :
    ch = dh ∧ rest = back := by
  have read := congrArg units same
  rw [units_char, units_char] at read
  cases List.cons.inj read with
  | intro head _ =>
    cases head
    exact ⟨rfl, List.append_cancel_left same⟩

private theorem piece_length (ill : IllFormed piece rest) (others : IllFormed other back)
    (same : piece ++ rest = other ++ back) : piece.length ≤ other.length := by
  rcases ill.begun with single | begins
  · rw [single]
    exact List.length_pos_iff.mpr others.given
  · apply others.longest piece _ begins
    rw [← same]
    exact List.prefix_append _ _

private theorem piece_ahead (ill : IllFormed piece rest) (others : IllFormed other back)
    (same : piece ++ rest = other ++ back) : piece = other ∧ rest = back := by
  apply List.append_inj same
  apply Nat.le_antisymm
  · exact piece_length ill others same
  · exact piece_length others ill same.symm

theorem lossy_unique {text others : List Char} (reads : Lossy bytes text) (again : Lossy bytes others) :
    text = others := by
  induction reads generalizing others with
  | nil =>
    generalize empty : ([] : List UInt8) = bytes at again
    cases again with
    | nil => rfl
    | char ch more =>
      obtain ⟨first, tail, split, _⟩ := char_bytes_split ch
      rw [split] at empty
      cases empty
    | piece ill more =>
      exact absurd (List.append_eq_nil_iff.mp empty.symm).1 ill.given
  | @char ch rest text _ ih =>
    generalize same : String.utf8EncodeChar ch ++ rest = bytes at again
    cases again with
    | nil =>
      obtain ⟨first, tail, split, _⟩ := char_bytes_split ch
      rw [split] at same
      cases same
    | char dh more =>
      obtain ⟨rfl, rfl⟩ := char_ahead same
      rw [ih more]
    | piece ill more =>
      refine absurd ?_ (ill.unread ch)
      rw [← same]
      exact List.prefix_append _ _
  | @piece piece rest text ill _ ih =>
    generalize same : piece ++ rest = bytes at again
    cases again with
    | nil => exact absurd (List.append_eq_nil_iff.mp same).1 ill.given
    | char dh more =>
      refine absurd ?_ (ill.unread dh)
      rw [same]
      exact List.prefix_append _ _
    | piece others more =>
      obtain ⟨rfl, rfl⟩ := piece_ahead ill others same
      rw [ih more]

end Unique

section Reader

variable {a b c d first : UInt8} {rest tail front : List UInt8} {ch : Char}

private theorem unit_ill (none : (unit first rest).1 = none) :
    IllFormed (first :: rest.take (unit first rest).2) (rest.drop (unit first rest).2) where
  unread ch found := by
    obtain ⟨lead, tail, split, written⟩ := char_bytes_split ch
    rw [List.cons_append, List.take_append_drop, split, List.cons_prefix_cons] at found
    obtain ⟨rfl, more, rfl⟩ := found
    rw [unit_whole written more] at none
    cases none
  given := List.cons_ne_nil _ _
  begun := by
    have taken := unit_taken first rest
    generalize unit first rest = read at none taken ⊢
    obtain ⟨_, count⟩ := read
    cases none
    obtain ⟨held, more, rfl, rfl, rfl | begins⟩ := taken
    · exact .inl rfl
    · rw [List.take_left]
      exact .inr begins
  longest longer ahead begins := by
    rw [List.cons_append, List.take_append_drop] at ahead
    obtain ⟨ch, within⟩ := begins
    obtain ⟨lead, tail, split, written⟩ := char_bytes_split ch
    rw [split] at within
    cases longer with
    | nil => exact Nat.zero_le _
    | cons head front =>
      obtain ⟨rfl, more, rfl⟩ := List.cons_prefix_cons.mp ahead
      obtain ⟨rfl, front_of⟩ := List.cons_prefix_cons.mp within
      have covers := unit_covers written front_of more
      rw [List.length_cons, List.length_cons, List.length_take, List.length_append]
      omega

/-- Reading by units is a lossy reading. -/
theorem lossy_units (bytes : List UInt8) : Lossy bytes ((units bytes).map fun c => c.getD replacement) := by
  induction size : bytes.length using Nat.strongRecOn generalizing bytes with
  | ind n ih =>
    cases bytes with
    | nil => exact .nil
    | cons first rest =>
      have shorter (count : Nat) : (rest.drop count).length < n := by
        rw [← size, List.length_drop, List.length_cons]
        omega
      have later := ih _ (shorter (unit first rest).2) (rest.drop (unit first rest).2) rfl
      rw [units_cons, List.map_cons]
      cases kind : (unit first rest).1 with
      | none =>
        have reads := Lossy.piece (unit_ill kind) later
        rw [List.cons_append, List.take_append_drop] at reads
        exact reads
      | some ch =>
        have taken := unit_taken first rest
        generalize unit first rest = read at kind taken later ⊢
        obtain ⟨_, count⟩ := read
        cases kind
        obtain ⟨tail, more, written, rfl, rfl⟩ := taken
        rw [List.drop_left] at later ⊢
        have reads := Lossy.char ch later
        rw [← char_bytes_eq written] at reads
        exact reads

/-- Every sequence of bytes has one lossy reading, and it is the text that the reader gives. -/
theorem lossy_iff (bytes : List UInt8) (s : String) : Lossy bytes s.toList ↔ s = decodeLossy bytes := by
  have reads : Lossy bytes (decodeLossy bytes).toList := by
    rw [decodeLossy, String.toList_ofList]
    exact lossy_units bytes
  constructor
  · intro again
    exact String.toList_inj.mp (lossy_unique again reads)
  · rintro rfl
    exact reads

end Reader

end Tabscript.LossyReadings
