import Tabscript.Json.Decode
import Tabscript.Outcome

/-!
Outcomes as JSON. An absent part is not written at all; when an outcome is read, an absent part and one that is `null`
are the same, and only `success` has to be there.
-/
namespace Tabscript.Outcome

/-- A part of an outcome as a member, if it is present. -/
def member (key : String) : Option String → List (String × Json)
  | none => []
  | some s => [(key, .string s)]

def toJson (o : Outcome) : Json :=
  .object (("success", .bool o.success) :: (member "output" o.output ++ member "warnings" o.warnings ++
    member "error" o.error ++ member "code" o.code))

def fields : List String :=
  ["success", "output", "warnings", "error", "code"]

def record : Json.Record Outcome where
  name := "OperationOutcome"
  fields := fields
  field? key := if fields.contains key then some key else none
  assign field v o :=
    if field = "success" then v.toBool.map fun b => { o with success := b }
    else if field = "output" then (v.toOption (Json.Draft.toText "a string")).map fun s => { o with output := s }
    else if field = "warnings" then (v.toOption (Json.Draft.toText "a string")).map fun s => { o with warnings := s }
    else if field = "error" then (v.toOption (Json.Draft.toText "a string")).map fun s => { o with error := s }
    else (v.toOption (Json.Draft.toText "a string")).map fun s => { o with code := s }

/-- The fault of an outcome without `success`. -/
def missingSuccess : Json.Draft → Json.Fault
  | .array _ _ => .misfit "invalid length 0, expected struct OperationOutcome with 5 elements"
  | _ => .misfit "missing field `success`"

def ofDraft (d : Json.Draft) : Except Json.Fault Outcome :=
  match record.read ⟨false, none, none, none, none⟩ d with
  | .error f => .error f
  | .ok (o, seen) => if seen.contains "success" then .ok o else .error (missingSuccess d)

def ofText (text : String) : Except Json.Fault Outcome :=
  Json.decode ofDraft text

end Tabscript.Outcome
