/-!
Addresses of a server: an IP address of either version and the number of a socket. Version 4 is written as four
decimal numbers without leading zeros; version 6 as groups of hexadecimal digits, of which one run of zeros may be
left out and the last two may be written as a version 4 address. Before a socket, a version 6 address stands in
brackets.
-/
namespace Tabscript

inductive IpAddress where
  | v4 (a b c d : Nat)
  /-- Eight groups of sixteen bits. -/
  | v6 (groups : List Nat)
  deriving DecidableEq, Repr

/-- An IP address and the number of a socket. -/
structure Address where
  ip : IpAddress
  socket : Nat
  deriving DecidableEq, Repr

namespace Address

/-- The value of a digit to a base of at most sixteen. -/
def digit? (base : Nat) (c : Char) : Option Nat :=
  let n :=
    if c.isDigit then c.toNat - 48
    else if 'a' ≤ c && c ≤ 'f' then c.toNat - 87
    else if 'A' ≤ c && c ≤ 'F' then c.toNat - 55
    else 16
  if n < base then some n else none

/-- Reads all digits that stand next, at most `most` of them, as a number up to a limit. -/
def number (base most limit : Nat) (cs : List Char) : Option (Nat × List Char) :=
  let digits := cs.takeWhile fun c => (digit? base c).isSome
  let value := digits.foldl (fun n c => n * base + (digit? base c).getD 0) 0
  if digits.isEmpty || most < digits.length || limit < value then none
  else some (value, cs.drop digits.length)

/-- Reads one sign. -/
def sign (c : Char) : List Char → Option (List Char)
  | [] => none
  | d :: rest => if c = d then some rest else none

/-- Reads a part of a version 4 address: up to three digits, without leading zeros. -/
def octet (cs : List Char) : Option (Nat × List Char) :=
  match number 10 3 255 cs with
  | none => none
  | some (n, rest) => if cs.head? = some '0' && rest.length + 1 < cs.length then none else some (n, rest)

def ipv4 (cs : List Char) : Option ((Nat × Nat × Nat × Nat) × List Char) := do
  let (a, cs) ← octet cs
  let cs ← sign '.' cs
  let (b, cs) ← octet cs
  let cs ← sign '.' cs
  let (c, cs) ← octet cs
  let cs ← sign '.' cs
  let (d, cs) ← octet cs
  return ((a, b, c, d), cs)

/-- Reads up to `left` groups with colons between them. Gives the groups, whether they end in a version 4 address,
which needs room for two, and the rest. -/
def groups (first : Bool) (held : List Nat) : Nat → List Char → List Nat × Bool × List Char
  | 0, cs => (held.reverse, false, cs)
  | left + 1, cs =>
    match if first then some cs else sign ':' cs with
    | none => (held.reverse, false, cs)
    | some inner =>
      match if left = 0 then none else ipv4 inner with
      | some ((a, b, c, d), rest) => (held.reverse ++ [a * 256 + b, c * 256 + d], true, rest)
      | none =>
        match number 16 4 65535 inner with
        | some (g, rest) => groups false (g :: held) left rest
        | none => (held.reverse, false, cs)

def ipv6 (cs : List Char) : Option (List Nat × List Char) :=
  let (front, dotted, rest) := groups true [] 8 cs
  if front.length = 8 then some (front, rest)
  else if dotted then none
  else do
    let rest ← sign ':' rest
    let rest ← sign ':' rest
    let (back, _, rest) := groups true [] (7 - front.length) rest
    return (front ++ List.replicate (8 - front.length - back.length) 0 ++ back, rest)

/-- Reads a colon and the number of a socket. -/
def socketPart (cs : List Char) : Option (Nat × List Char) := do
  let cs ← sign ':' cs
  number 10 cs.length 65535 cs

/-- Reads the scope of a version 6 address, if there is one; it is not kept. -/
def scope (cs : List Char) : Option (List Char) :=
  match sign '%' cs with
  | none => some cs
  | some inner => (number 10 inner.length 4294967295 inner).map Prod.snd

def readV4 (cs : List Char) : Option (Address × List Char) := do
  let ((a, b, c, d), cs) ← ipv4 cs
  let (p, cs) ← socketPart cs
  return (⟨.v4 a b c d, p⟩, cs)

def readV6 (cs : List Char) : Option (Address × List Char) := do
  let cs ← sign '[' cs
  let (gs, cs) ← ipv6 cs
  let cs ← scope cs
  let cs ← sign ']' cs
  let (p, cs) ← socketPart cs
  return (⟨.v6 gs, p⟩, cs)

def ofText? (text : String) : Option Address :=
  match (readV4 text.toList).or (readV6 text.toList) with
  | some (address, []) => some address
  | _ => none

end Address

namespace IpAddress

/-- The longest run of zeros among groups, the first of several: where it starts and how long it is. `place` is the
place of the next group, `run` the zeros directly before it, and `best` the longest run so far. -/
def longestZeros (place run : Nat) (best : Nat × Nat) : List Nat → Nat × Nat
  | [] => best
  | g :: more =>
    if g = 0 then
      let best := if best.2 < run + 1 then (place - run, run + 1) else best
      longestZeros (place + 1) (run + 1) best more
    else longestZeros (place + 1) 0 best more

/-- Groups in hexadecimal digits, with colons between them. -/
def groupText (gs : List Nat) : String :=
  String.intercalate ":" (gs.map fun g => String.ofList (Nat.toDigits 16 g))

/-- Four numbers with points between them. -/
def dottedText (a b c d : Nat) : String :=
  String.intercalate "." [toString a, toString b, toString c, toString d]

def text : IpAddress → String
  | .v4 a b c d => dottedText a b c d
  | .v6 [0, 0, 0, 0, 0, 0xffff, x, y] => "::ffff:" ++ dottedText (x / 256) (x % 256) (y / 256) (y % 256)
  | .v6 gs =>
    let (start, length) := longestZeros 0 0 (0, 0) gs
    if 1 < length then groupText (gs.take start) ++ "::" ++ groupText (gs.drop (start + length)) else groupText gs

end IpAddress

def Address.text (a : Address) : String :=
  match a.ip with
  | .v4 .. => a.ip.text ++ ":" ++ toString a.socket
  | .v6 _ => "[" ++ a.ip.text ++ "]:" ++ toString a.socket

end Tabscript
