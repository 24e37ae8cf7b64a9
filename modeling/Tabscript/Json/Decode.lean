import Tabscript.Json.Reader

/-!
Taking values of a wanted form out of drafts. The first thing in the text that does not fit is the fault, so a
record is gone through in the order of the text: for each member its name, then whether it was there before, then
its value. A record may also be given as an array of its fields in their own order, and then the last ones may be
left out.
-/
namespace Tabscript.Json

namespace Draft

def toBool : Draft → Except Fault Bool
  | .bool b => .ok b
  | d => .error (d.mismatch "a boolean")

/-- A text, called what is expected in the message of its fault. -/
def toText (expected : String) : Draft → Except Fault String
  | .string text => text
  | d => .error (d.mismatch expected)

/-- A whole number of 64 bits, called what is expected in the message of its fault. -/
def toWord (expected : String) : Draft → Except Fault UInt64
  | .number (.ok (.natural n)) => .ok (UInt64.ofNat n)
  | .number (.ok (.negative n)) =>
    .error (.misfit ("invalid value: integer `-" ++ toString n ++ "`, expected " ++ expected))
  | d => .error (d.mismatch expected)

def toOption {α : Type} (read : Draft → Except Fault α) : Draft → Except Fault (Option α)
  | .null => .ok none
  | d => (read d).map some

/-- Values in order. -/
def mapItems {α : Type} (read : Draft → Except Fault α) : List Draft → Except Fault (List α)
  | [] => .ok []
  | d :: more =>
    match read d with
    | .error f => .error f
    | .ok a => (mapItems read more).map (a :: ·)

def toList {α : Type} (read : Draft → Except Fault α) : Draft → Except Fault (List α)
  | .array items after =>
    match mapItems read items, after with
    | .error f, _ => .error f
    | .ok _, some d => .error d.kept
    | .ok as, none => .ok as
  | d => .error (d.mismatch "a sequence")

end Draft

/-- How a record is read: its name in messages, its fields in order, the field that a name in the text means, and what
the value of a field does to the record. -/
structure Record (α : Type) where
  name : String
  fields : List String
  field? : String → Option String
  assign : String → Draft → α → Except Fault α

namespace Record

variable {α : Type}

/-- Reads members in order into a record; `seen` are the fields that were there before. Gives the record and all
fields seen. -/
def readMembers (r : Record α) (seen : List String) (a : α) :
    List (Name × Draft) → Except Fault (α × List String)
  | [] => .ok (a, seen)
  | (key, v) :: more =>
    match key.read with
    | .error f => .error f
    | .ok text =>
      match r.field? text with
      | none =>
        match v.skipFault with
        | some f => .error f
        | none => readMembers r seen a more
      | some field =>
        if seen.contains field then .error (.misfit ("duplicate field `" ++ field ++ "`"))
        else
          match r.assign field v a with
          | .error f => .error f
          | .ok b => readMembers r (field :: seen) b more

/-- Reads items in order into the fields of a record. Gives the record and the fields read. -/
def readItems (r : Record α) (seen : List String) (a : α) :
    List String → List Draft → Except Fault (α × List String)
  | _, [] => .ok (a, seen)
  | [], _ :: _ => .error .malformed
  | field :: fields, v :: more =>
    match r.assign field v a with
    | .error f => .error f
    | .ok b => readItems r (field :: seen) b fields more

/-- Reads a record, starting from the given one. Gives the record and the fields that were in the text. -/
def read (r : Record α) (start : α) (d : Draft) : Except Fault (α × List String) :=
  match d with
  | .object members defect =>
    match readMembers r [] start members, defect with
    | .error f, _ => .error f
    | .ok _, some d => .error d.kept
    | .ok result, none => .ok result
  | .array items defect =>
    match readItems r [] start r.fields items, defect with
    | .error f, _ => .error f
    | .ok _, some d => .error d.kept
    | .ok result, none => .ok result
  | d => .error (d.mismatch ("struct " ++ r.name))

end Record

/-- Takes a value out of a whole text; nothing but blanks may follow it. -/
def decode {α : Type} (take : Draft → Except Fault α) (text : String) : Except Fault α :=
  let (d, left) := read text.toList
  match take d with
  | .error f => .error f
  | .ok a =>
    match left with
    | none => .error .cutShort
    | some rest => if (skipSpace rest).isEmpty then .ok a else .error .malformed

/-- Takes a value out of the beginning of a text, whatever follows it. -/
def decodeFront {α : Type} (take : Draft → Except Fault α) (cs : List Char) : Except Fault α :=
  take (read cs).1

end Tabscript.Json
