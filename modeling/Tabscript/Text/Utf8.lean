/-!
Texts as bytes. A byte sequence is cut into units from left to right: a well-formed character, or a piece that is no
character, which is as long as it could still have become one. `decode?` takes well-formed sequences only, and
`decodeLossy` puts the replacement character for each ill-formed piece.
-/
namespace Tabscript.Text

def encode (s : String) : List UInt8 :=
  s.toList.flatMap String.utf8EncodeChar

/-- A byte that continues a character. -/
def isTail (b : UInt8) : Bool :=
  0x80 ≤ b && b ≤ 0xBF

/-- The six low bits of a byte that continues a character. -/
def tailBits (b : UInt8) : Nat :=
  b.toNat % 64

/-- The bounds of the byte after the first, for the first byte of a character of three or four bytes. -/
def secondBounds (first : UInt8) : UInt8 × UInt8 :=
  if first = 0xE0 then (0xA0, 0xBF)
  else if first = 0xED then (0x80, 0x9F)
  else if first = 0xF0 then (0x90, 0xBF)
  else if first = 0xF4 then (0x80, 0x8F)
  else (0x80, 0xBF)

/-- Whether a byte may come second after the given first byte. -/
def isSecond (first b : UInt8) : Bool :=
  (secondBounds first).1 ≤ b && b ≤ (secondBounds first).2

/-- The unit that begins with a byte: its character, if it is well-formed, and how many bytes more it takes. -/
def unit (first : UInt8) (rest : List UInt8) : Option Char × Nat :=
  if first < 0x80 then (some (Char.ofNat first.toNat), 0)
  else if 0xC2 ≤ first && first ≤ 0xDF then
    match rest with
    | b :: _ => if isTail b then (some (Char.ofNat (first.toNat % 32 * 64 + tailBits b)), 1) else (none, 0)
    | [] => (none, 0)
  else if 0xE0 ≤ first && first ≤ 0xEF then
    match rest with
    | b :: more =>
      if isSecond first b then
        match more with
        | c :: _ =>
          if isTail c then (some (Char.ofNat ((first.toNat % 16 * 64 + tailBits b) * 64 + tailBits c)), 2)
          else (none, 1)
        | [] => (none, 1)
      else (none, 0)
    | [] => (none, 0)
  else if 0xF0 ≤ first && first ≤ 0xF4 then
    match rest with
    | b :: more =>
      if isSecond first b then
        match more with
        | c :: most =>
          if isTail c then
            match most with
            | d :: _ =>
              if isTail d then
                (some (Char.ofNat (((first.toNat % 8 * 64 + tailBits b) * 64 + tailBits c) * 64 + tailBits d)), 3)
              else (none, 2)
            | [] => (none, 2)
          else (none, 1)
        | [] => (none, 1)
      else (none, 0)
    | [] => (none, 0)
  else (none, 0)

/-- The units of a byte sequence. The first `taken` bytes belong to a unit already read, and `held` are the units so
far, reversed. -/
def unitsFrom (taken : Nat) (held : List (Option Char)) : List UInt8 → List (Option Char)
  | [] => held.reverse
  | b :: rest =>
    match taken with
    | k + 1 => unitsFrom k held rest
    | 0 =>
      let (c, more) := unit b rest
      unitsFrom more (c :: held) rest

/-- The units of a byte sequence; an ill-formed piece is `none`. -/
def units (bytes : List UInt8) : List (Option Char) :=
  unitsFrom 0 [] bytes

/-- The text that a byte sequence encodes, if it is well-formed. -/
def decode? (bytes : List UInt8) : Option String :=
  let us := units bytes
  if us.all Option.isSome then some (String.ofList (us.filterMap id)) else none

/-- The character that stands for an ill-formed piece. -/
def replacement : Char := '�'

/-- The text of a byte sequence, with a replacement for each ill-formed piece. -/
def decodeLossy (bytes : List UInt8) : String :=
  String.ofList ((units bytes).map fun c => c.getD replacement)

end Tabscript.Text
