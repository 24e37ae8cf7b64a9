import Tabscript.Json.Draft

/-!
Reading a JSON text into a draft, from left to right. Reading stops at the first defect, and then no text is left;
otherwise what follows the value is given back with it. A comma always owes another item or member: when none
follows, a defect stands in its place.
-/
namespace Tabscript.Json

/-- The blanks that JSON allows between its signs. -/
def isSpace (c : Char) : Bool :=
  c == ' ' || c == '\n' || c == '\t' || c == '\r'

def skipSpace (cs : List Char) : List Char :=
  cs.dropWhile isSpace

/-- What a reading gives: a draft, and the text after it unless reading has stopped. -/
abbrev Read := Draft × Option (List Char)

/-- Stops at a defect. -/
def stopAt (d : Defect) : Read :=
  (.defect d, none)

def hexValue? (c : Char) : Option Nat :=
  if c.isDigit then some (c.toNat - 48)
  else if 'a' ≤ c && c ≤ 'f' then some (c.toNat - 87)
  else if 'A' ≤ c && c ≤ 'F' then some (c.toNat - 55)
  else none

/-- The number that four hexadecimal digits denote. A text that ends before four bytes more is cut short. -/
def hex4 (cs : List Char) : Except Fault Nat :=
  match cs with
  | a :: b :: c :: d :: _ =>
    match hexValue? a, hexValue? b, hexValue? c, hexValue? d with
    | some a, some b, some c, some d => .ok (((a * 16 + b) * 16 + c) * 16 + d)
    | _, _, _, _ => .error .malformed
  | few => if few.foldl (fun size c => size + c.utf8Size) 0 < 4 then .error .cutShort else .error .malformed

/-- The character that a letter after a backslash stands for. -/
def shortEscape? (c : Char) : Option Char :=
  if c = '\"' then some '\"'
  else if c = '\\' then some '\\'
  else if c = '/' then some '/'
  else if c = 'b' then some '\x08'
  else if c = 'f' then some '\x0c'
  else if c = 'n' then some '\n'
  else if c = 'r' then some '\r'
  else if c = 't' then some '\t'
  else none

/-- The second half of a surrogate pair, after the first half `high`. -/
def lowHalf (high : Nat) : List Char → Except Fault Char
  | [] => .error .cutShort
  | '\\' :: [] => .error .cutShort
  | '\\' :: 'u' :: cs =>
    match hex4 cs with
    | .error f => .error f
    | .ok low =>
      if 0xDC00 ≤ low && low ≤ 0xDFFF then .ok (Char.ofNat (0x10000 + (high - 0xD800) * 1024 + (low - 0xDC00)))
      else .error .malformed
  | _ => .error .malformed

/-- The character that the escape after a backslash stands for, and how many characters the escape takes. -/
def escape : List Char → Except Fault (Char × Nat)
  | [] => .error .cutShort
  | 'u' :: cs =>
    match hex4 cs with
    | .error f => .error f
    | .ok n =>
      if 0xDC00 ≤ n && n ≤ 0xDFFF then .error .malformed
      else if 0xD800 ≤ n && n ≤ 0xDBFF then (lowHalf n (cs.drop 4)).map fun c => (c, 11)
      else .ok (Char.ofNat n, 5)
  | c :: _ =>
    match shortEscape? c with
    | some d => .ok (d, 1)
    | none => .error .malformed

/-- How many characters the escape after a backslash takes, for a reader who does not keep it. -/
def escapeLength : List Char → Except Fault Nat
  | [] => .error .cutShort
  | 'u' :: cs => (hex4 cs).map fun _ => 5
  | c :: _ => if (shortEscape? c).isSome then .ok 1 else .error .malformed

/-- Reads a string up to its closing quote and decodes it. The first `taken` characters belong to an escape already
read, and `held` is the text so far, reversed. -/
def keepString (taken : Nat) (held : List Char) : List Char → Except Fault (String × List Char)
  | [] => .error .cutShort
  | c :: rest =>
    match taken with
    | k + 1 => keepString k held rest
    | 0 =>
      if c = '\"' then .ok (String.ofList held.reverse, rest)
      else if c = '\\' then
        match escape rest with
        | .error f => .error f
        | .ok (d, n) => keepString n (d :: held) rest
      else if c.toNat < 0x20 then .error .malformed
      else keepString 0 (c :: held) rest

/-- Finds the closing quote of a string that is not kept. -/
def passString (taken : Nat) : List Char → Except Fault (List Char)
  | [] => .error .cutShort
  | c :: rest =>
    match taken with
    | k + 1 => passString k rest
    | 0 =>
      if c = '\"' then .ok rest
      else if c = '\\' then
        match escapeLength rest with
        | .error f => .error f
        | .ok n => passString n rest
      else if c.toNat < 0x20 then .error .malformed
      else passString 0 rest

/-- Reads a string after its opening quote, as the name of a member. -/
def readText (cs : List Char) : Name × Option (List Char) :=
  match keepString 0 [] cs with
  | .ok (text, rest) => (.text (.ok text), some rest)
  | .error kept =>
    match passString 0 cs with
    | .ok rest => (.text (.error kept), some rest)
    | .error skipped => (.defect ⟨kept, skipped, kept⟩, none)

/-- Reads a string after its opening quote. -/
def readString (cs : List Char) : Read :=
  match readText cs with
  | (.text text, left) => (.string text, left)
  | (.defect d, left) => (.defect d, left)

/-- Reads the name of a member, which has to be a string, and gives what follows it. -/
def readName : List Char → Name × Option (List Char)
  | [] => (.defect (.of .cutShort), none)
  | c :: rest => if c = '\"' then readText rest else (.defect (.of .malformed), none)

/-- Reads the letters of a word that stands for the given draft. -/
def readWord (value : Draft) : List Char → List Char → Read
  | [], rest => (value, some rest)
  | _ :: _, [] => stopAt ⟨.cutShort, .cutShort, .malformed⟩
  | w :: word, c :: rest => if w = c then readWord value word rest else stopAt (.of .malformed)

/-- A number that stops where digits are due. -/
def brokenNumber : List Char → Read
  | [] => stopAt ⟨.cutShort, .malformed, .malformed⟩
  | _ :: _ => stopAt (.of .malformed)

/-- A whole number text as a draft. -/
def numberDraft (t : NumeralText) : Draft :=
  match t.value? with
  | some n => .number (.ok n)
  | none => .number (.error .malformed)

/-- Reads the digits of an exponent, for a number whose other parts are given. -/
def readPower (t : NumeralText) (cs : List Char) : Read :=
  let (down, cs) := match cs with
    | '-' :: more => (true, more)
    | '+' :: more => (false, more)
    | _ => (false, cs)
  let digits := cs.takeWhile Char.isDigit
  if digits.isEmpty then brokenNumber cs
  else (numberDraft { t with power := some (down, digits) }, some (cs.dropWhile Char.isDigit))

/-- Reads the exponent of a number, if there is one. -/
def readExponent (t : NumeralText) (cs : List Char) : Read :=
  match cs with
  | 'e' :: more => readPower t more
  | 'E' :: more => readPower t more
  | _ => (numberDraft t, some cs)

/-- Reads what follows the whole part of a number. -/
def readFraction (t : NumeralText) (cs : List Char) : Read :=
  match cs with
  | '.' :: more =>
    let digits := more.takeWhile Char.isDigit
    if digits.isEmpty then brokenNumber more
    else readExponent { t with places := some digits } (more.dropWhile Char.isDigit)
  | _ => readExponent t cs

/-- Reads a number after its sign. A zero may not be followed by another digit. -/
def readNumber (minus : Bool) (cs : List Char) : Read :=
  let digits := cs.takeWhile Char.isDigit
  match digits with
  | [] => brokenNumber cs
  | '0' :: _ :: _ => stopAt (.of .malformed)
  | _ => readFraction ⟨minus, digits, none, none⟩ (cs.dropWhile Char.isDigit)

/-- Reads a value that is neither an array nor an object and begins with the given character. -/
def readScalar (c : Char) (rest : List Char) : Read :=
  if c = 'n' then readWord .null ['u', 'l', 'l'] rest
  else if c = 't' then readWord (.bool true) ['r', 'u', 'e'] rest
  else if c = 'f' then readWord (.bool false) ['a', 'l', 's', 'e'] rest
  else if c = '\"' then readString rest
  else if c = '-' then readNumber true rest
  else if c.isDigit then readNumber false (c :: rest)
  else stopAt (.of .malformed)

mutual

/-- Reads a value. The fuel bounds the number of nested readings. -/
def readValue : Nat → List Char → Read
  | 0, _ => stopAt (.of .cutShort)
  | fuel + 1, cs =>
    match skipSpace cs with
    | [] => stopAt (.of .cutShort)
    | c :: rest =>
      if c = '[' then
        match skipSpace rest with
        | [] => (.array [] (some (.of .cutShort)), none)
        | d :: more =>
          if d = ']' then (.array [] none, some more)
          else
            let (items, defect, left) := readItems fuel (d :: more)
            (.array items defect, left)
      else if c = '{' then
        match skipSpace rest with
        | [] => (.object [] (some (.of .cutShort)), none)
        | d :: more =>
          if d = '}' then (.object [] none, some more)
          else
            let (members, defect, left) := readMembers fuel (d :: more)
            (.object members defect, left)
      else readScalar c rest

/-- Reads items of an array, of which at least one is due, up to the closing bracket. -/
def readItems : Nat → List Char → List Draft × Option Defect × Option (List Char)
  | 0, _ => ([], some (.of .cutShort), none)
  | fuel + 1, cs =>
    let (v, left) := readValue fuel cs
    match left with
    | none => ([v], none, none)
    | some rest =>
      match skipSpace rest with
      | [] => ([v], some (.of .cutShort), none)
      | c :: more =>
        if c = ',' then
          let (items, defect, left) := readItems fuel more
          (v :: items, defect, left)
        else if c = ']' then ([v], none, some more)
        else ([v], some (.of .malformed), none)

/-- Reads members of an object, of which at least one is due, up to the closing brace. -/
def readMembers : Nat → List Char → List (Name × Draft) × Option Defect × Option (List Char)
  | 0, _ => ([], some (.of .cutShort), none)
  | fuel + 1, cs =>
    let (key, left) := readName (skipSpace cs)
    match left with
    | none => ([(key, .null)], none, none)
    | some rest =>
      match skipSpace rest with
      | [] => ([(key, .defect (.of .cutShort))], none, none)
      | d :: more =>
        if d = ':' then
          let (v, left) := readValue fuel more
          match left with
          | none => ([(key, v)], none, none)
          | some rest =>
            match skipSpace rest with
            | [] => ([(key, v)], some (.of .cutShort), none)
            | e :: more =>
              if e = ',' then
                let (members, defect, left) := readMembers fuel more
                ((key, v) :: members, defect, left)
              else if e = '}' then ([(key, v)], none, some more)
              else ([(key, v)], some (.of .malformed), none)
        else ([(key, .defect (.of .malformed))], none, none)

end

/-- Reads the value that a text begins with; twice its length bounds the nested readings. -/
def read (cs : List Char) : Read :=
  readValue (2 * cs.length + 2) cs

end Tabscript.Json
