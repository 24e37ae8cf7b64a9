import Tabscript.Text.Utf8

/-!
Captured streams. Of what a process writes only so many bytes are kept; the rest is read and dropped, and the text of
the stream then ends in a mark. How the stream was cut into pieces on its way does not matter.
-/
namespace Tabscript.Capture

/-- What ends the text of a stream that was not kept whole. -/
def mark : String := "\n[output truncated]"

/-- The bytes kept so far, and whether any were dropped. -/
structure Kept where
  bytes : List UInt8
  truncated : Bool

/-- Takes one more piece of a stream. -/
def absorb (most : Nat) (kept : Kept) (piece : List UInt8) : Kept :=
  let room := most - kept.bytes.length
  if piece.length ≤ room then ⟨kept.bytes ++ piece, kept.truncated⟩
  else ⟨kept.bytes ++ piece.take room, true⟩

/-- Takes a whole stream. -/
def collect (most : Nat) (pieces : List (List UInt8)) : Kept :=
  pieces.foldl (absorb most) ⟨[], false⟩

/-- The text of a stream of which at most so many bytes are kept. -/
def text (most : Nat) (pieces : List (List UInt8)) : String :=
  let kept := collect most pieces
  if kept.truncated then Text.decodeLossy kept.bytes ++ mark else Text.decodeLossy kept.bytes

end Tabscript.Capture
