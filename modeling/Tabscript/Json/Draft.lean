import Tabscript.Decimal.Shortest
import Tabscript.Json.Numeral
import Tabscript.Json.Value
import Tabscript.Text.Quoted

/-!
Drafts: a JSON text as far as it can be read. A draft is a value in which the first defect of the text stands at the
place where it was met, so that whoever goes through a draft in order meets the defect exactly when everything before
it was in order. What is passed over without being kept is held to less: a string may then name half a surrogate
pair and a number may be too large, which is why a string and a number of a draft may be faults of their own.
-/
namespace Tabscript.Json

/-- What is wrong with a JSON text. -/
inductive Fault where
  /-- The text ends too early. -/
  | cutShort
  /-- The text is not JSON. -/
  | malformed
  /-- The text is JSON so far, but not of the form that is wanted. -/
  | misfit (message : String)
  deriving DecidableEq, Repr

def Fault.message : Fault → String
  | .cutShort => "unexpected end of JSON text"
  | .malformed => "malformed JSON text"
  | .misfit message => message

/-- A place at which a text stops being JSON, by the fault that it is for different readers. -/
structure Defect where
  /-- For a reader who keeps what stands there. -/
  kept : Fault
  /-- For a reader who passes over it. -/
  skipped : Fault
  /-- For a reader who wants nothing that begins so. -/
  unwanted : Fault

/-- A defect that is the same for every reader. -/
def Defect.of (f : Fault) : Defect :=
  ⟨f, f, f⟩

/-- The name of a member as far as it can be read. -/
inductive Name where
  | text (text : Except Fault String)
  /-- No string stands where a name is due, or one that does not end. -/
  | defect (d : Defect)

/-- The name for a reader who looks at it. -/
def Name.read : Name → Except Fault String
  | .text t => t
  | .defect d => .error d.kept

/-- A JSON text as far as it can be read. -/
inductive Draft where
  | null
  | bool (value : Bool)
  | number (value : Except Fault Numeral)
  | string (text : Except Fault String)
  /-- The items, and the defect after them, if one stands where a comma or the end is due. -/
  | array (items : List Draft) (defect : Option Defect)
  /-- The members, and the defect after them. A member whose name has a defect is the last. -/
  | object (members : List (Name × Draft)) (defect : Option Defect)
  | defect (d : Defect)

namespace Draft

mutual

/-- The first fault of a draft for a reader who passes over it. -/
def skipFault : Draft → Option Fault
  | .null => none
  | .bool _ => none
  | .number _ => none
  | .string _ => none
  | .array items d => (skipItems items).or (d.map Defect.skipped)
  | .object members d => (skipMembers members).or (d.map Defect.skipped)
  | .defect d => some d.skipped

def skipItems : List Draft → Option Fault
  | [] => none
  | v :: more => (skipFault v).or (skipItems more)

def skipMembers : List (Name × Draft) → Option Fault
  | [] => none
  | (.text _, v) :: more => (skipFault v).or (skipMembers more)
  | (.defect d, _) :: _ => some d.skipped

end

mutual

/-- The first fault of a draft for a reader who keeps all of it; arrays and objects may be nested less than `room`
times. -/
def keepFault (room : Nat) : Draft → Option Fault
  | .null => none
  | .bool _ => none
  | .number (.ok _) => none
  | .number (.error f) => some f
  | .string (.ok _) => none
  | .string (.error f) => some f
  | .array items d =>
    if room ≤ 1 then some .malformed else (keepItems (room - 1) items).or (d.map Defect.kept)
  | .object members d =>
    if room ≤ 1 then some .malformed else (keepMembers (room - 1) members).or (d.map Defect.kept)
  | .defect d => some d.kept

def keepItems (room : Nat) : List Draft → Option Fault
  | [] => none
  | v :: more => (keepFault room v).or (keepItems room more)

def keepMembers (room : Nat) : List (Name × Draft) → Option Fault
  | [] => none
  | (key, v) :: more =>
    match key.read with
    | .error f => some f
    | .ok _ => (keepFault room v).or (keepMembers room more)

end

/-- The member of an object with the given name; of several the last. -/
def get? (key : String) : Draft → Option Draft
  | .object members _ =>
    (members.reverse.find? fun (k, _) => match k with
      | .text (.ok text) => text == key
      | _ => false).map Prod.snd
  | _ => none

/-- The fault of a reader who wants something else: the sort of value that was found, and what was expected. A
string or number that cannot be kept, and a defect, is its own fault instead. -/
def mismatch (expected : String) : Draft → Fault
  | .null => wrong "null"
  | .bool b => wrong ("boolean `" ++ (if b then "true" else "false") ++ "`")
  | .number (.ok (.natural n)) => wrong ("integer `" ++ toString n ++ "`")
  | .number (.ok (.negative n)) => wrong ("integer `-" ++ toString n ++ "`")
  | .number (.ok (.float x)) => wrong ("floating point `" ++ Decimal.floatText x ++ "`")
  | .number (.error f) => f
  | .string (.ok s) => wrong ("string " ++ Text.quoted s)
  | .string (.error f) => f
  | .array _ _ => wrong "sequence"
  | .object _ _ => wrong "map"
  | .defect d => d.kept
where
  wrong (found : String) : Fault := .misfit ("invalid type: " ++ found ++ ", expected " ++ expected)

end Draft
end Tabscript.Json
