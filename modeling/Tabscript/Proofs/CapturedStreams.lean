import Tabscript.Capture
import Tabscript.Proofs.LossyReadings

/-! A captured stream is a function of the bytes written, not of the pieces in
which they arrived.

What is kept is the longest part from the start that the limit allows, and the
mark stands for the rest. So an empty text means that nothing at all was
written, whatever the limit: with a limit of zero the mark still gives a byte
away. The limit counts bytes and may fall inside a character; the text then has
every character before it, and one replacement. -/
namespace Tabscript.CapturedStreams
open Capture Text EncodedTexts LossyReadings

/-- What remains of a stream that has written these bytes in all. -/
def keptOf (most : Nat) (bytes : List UInt8) : Kept :=
  ⟨bytes.take most, decide (most < bytes.length)⟩

private theorem room_after (most : Nat) (seen : List UInt8) :
    most - (seen.take most).length = most - seen.length := by
  rw [List.length_take]
  omega

/-- One more piece, taken by what is kept so far, leaves what the bytes of
both would have left at once. -/
private theorem absorb_kept (most : Nat) (seen piece : List UInt8) :
    absorb most (keptOf most seen) piece = keptOf most (seen ++ piece) := by
  simp only [absorb, keptOf, room_after, List.take_append, List.length_append]
  by_cases fits : piece.length ≤ most - seen.length
  · -- A stream that is already over the limit has room for an empty piece only.
    have whole : piece.take (most - seen.length) = piece := List.take_of_length_le fits
    have dropped : decide (most < seen.length) = decide (most < seen.length + piece.length) := by
      apply decide_eq_decide.mpr
      omega
    rw [if_pos fits, whole, dropped]
  · have dropped : decide (most < seen.length + piece.length) = true := by
      apply decide_eq_true
      omega
    rw [if_neg fits, dropped]

private theorem absorb_pieces (most : Nat) (pieces : List (List UInt8)) (seen : List UInt8) :
    pieces.foldl (absorb most) (keptOf most seen) = keptOf most (seen ++ pieces.flatten) := by
  induction pieces generalizing seen with
  | nil => simp
  | cons piece rest ih =>
    rw [List.foldl_cons, absorb_kept, ih, List.flatten_cons, List.append_assoc]

/-- However a stream was cut into pieces, the same part of it is kept. -/
theorem collect_kept (most : Nat) (pieces : List (List UInt8)) :
    collect most pieces = keptOf most pieces.flatten := by
  have start : (⟨[], false⟩ : Kept) = keptOf most [] := by simp [keptOf]
  rw [collect, start, absorb_pieces, List.nil_append]

/-- No byte is read into nothing: ill-formed bytes still leave a replacement. -/
theorem decode_lossy_empty_iff (bytes : List UInt8) : decodeLossy bytes = "" ↔ bytes = [] := by
  constructor
  · intro empty
    cases bytes with
    | nil => rfl
    | cons byte rest =>
      simp [decodeLossy] at empty
  · rintro rfl
    rfl

/-- The text is what the kept bytes read as, and the mark if there were more. -/
private theorem text_of_bytes (most : Nat) (pieces : List (List UInt8)) :
    Capture.text most pieces =
      decodeLossy (pieces.flatten.take most) ++ (if most < pieces.flatten.length then mark else "") := by
  rw [Capture.text, collect_kept, keptOf]
  by_cases beyond : most < pieces.flatten.length
  · simp only [beyond, decide_true, if_true]
  · simp only [beyond, decide_false, Bool.false_eq_true, if_false, String.append_empty]

/-- The captured text is empty exactly when no byte was written. -/
theorem text_empty_iff (most : Nat) (pieces : List (List UInt8)) :
    Capture.text most pieces = "" ↔ pieces.flatten = [] := by
  rw [text_of_bytes, String.append_eq_empty_iff, decode_lossy_empty_iff]
  by_cases beyond : most < pieces.flatten.length
  · have written : pieces.flatten ≠ [] := by
      apply List.ne_nil_of_length_pos
      omega
    have marked : mark ≠ "" := by decide
    simp only [beyond, if_true, marked, written, and_false]
  · have whole : pieces.flatten.take most = pieces.flatten := List.take_of_length_le (by omega)
    simp only [beyond, if_false, whole, and_true]

example : Capture.text 0 [[], [0x41]] = "\n[output truncated]" := by decide

/-- What is captured of a stream, for every limit and every way to cut the stream into pieces. It
is the one lossy reading of the first bytes up to the limit, with the mark behind it exactly if
the stream goes on, and it is empty only for an empty stream. Of a stream that is the bytes of a
text, the whole text is captured if it fits, and else its longest part that fits, a replacement
if the limit falls inside a character, and the mark. -/
theorem captured_text_exact (most : Nat) (pieces : List (List UInt8)) :
    (∃ kept : String, (∀ s : String, Lossy (pieces.flatten.take most) s.toList ↔ s = kept) ∧
      Capture.text most pieces = kept ++ (if most < pieces.flatten.length then mark else "")) ∧
    (Capture.text most pieces = "" ↔ pieces.flatten = []) ∧
    ∀ s, pieces.flatten = encode s →
      ((encode s).length ≤ most → Capture.text most pieces = s) ∧
      (most < (encode s).length → ∃ p, LongestWithin most s p ∧
        (CutsBetween most s → Capture.text most pieces = p ++ mark) ∧
        (¬ CutsBetween most s → Capture.text most pieces = p ++ "\uFFFD" ++ mark)) := by
  refine ⟨⟨_, lossy_iff _, text_of_bytes most pieces⟩, text_empty_iff most pieces, ?_⟩
  intro s spelled
  rw [text_of_bytes, spelled]
  constructor
  · intro fits
    rw [List.take_of_length_le fits, if_neg (Nat.not_lt.mpr fits), String.append_empty, decode_encode]
  · intro beyond
    obtain ⟨p, longest, between, inside⟩ := decode_taken beyond
    refine ⟨p, longest, ?_, ?_⟩
    · intro cut
      rw [if_pos beyond, between cut]
    · intro cut
      rw [if_pos beyond, inside cut]
      rfl

/-- A stream of two pieces that meet inside its last character, and a limit that cuts the character
in another place. -/
theorem captured_text_exact_inside_character :
    [[0x61, 0xE2], [0x82, 0xAC]].flatten = encode "a€" ∧ ¬ CutsBetween 3 "a€" ∧
    ∃ p, LongestWithin 3 "a€" p ∧ Capture.text 3 [[0x61, 0xE2], [0x82, 0xAC]] = p ++ "\uFFFD" ++ mark := by
  have spelled : [[0x61, 0xE2], [0x82, 0xAC]].flatten = encode "a€" := by decide
  have split : "a€".toList = ['a'] ++ '€' :: [] := by decide
  have longest : LongestWithin 3 "a€" (String.ofList ['a']) := longest_before split (by decide) (by decide)
  have inside : ¬ CutsBetween 3 "a€" := by
    rw [cuts_between_iff longest]
    decide
  obtain ⟨_, _, texts⟩ := captured_text_exact 3 [[0x61, 0xE2], [0x82, 0xAC]]
  obtain ⟨p, fits, _, replaced⟩ := (texts "a€" spelled).2 (by decide)
  exact ⟨spelled, inside, p, fits, replaced inside⟩

end Tabscript.CapturedStreams
