import Tabscript.Json.Decode

/-!
Submitted scripts: a JSON text that carries a script as its member `command`, or `code`. A saved submission is kept as a
whole before the script is looked up in it; one that is sent is read as a record with one field, in which the two
names mean the same and the script may be missing.
-/
namespace Tabscript.Submission

/-- Why a saved submission yields no script. -/
inductive Fault where
  | json (fault : Json.Fault)
  /-- There is neither a `command` nor a `code`. -/
  | noCommand
  /-- The script is not a text. -/
  | notText
  deriving DecidableEq, Repr

def Fault.message : Fault → String
  | .json fault => fault.message
  | .noCommand => "request has no `command` field"
  | .notText => "`command` must be a string"

/-- How deeply arrays and objects of a text that is kept as a whole may be nested, plus one. -/
def nestingLimit : Nat := 128

/-- Keeps a draft as a whole. -/
def keep (d : Json.Draft) : Except Json.Fault Json.Draft :=
  match d.keepFault nestingLimit with
  | some f => .error f
  | none => .ok d

/-- The script of a saved submission. -/
def script (text : String) : Except Fault String :=
  match Json.decode keep text with
  | .error f => .error (.json f)
  | .ok d =>
    match (d.get? "command").or (d.get? "code") with
    | none => .error .noCommand
    | some (.string (.ok s)) => .ok s
    | some _ => .error .notText

/-- How a submission that is sent is read. -/
def record : Json.Record (Option String) where
  name := "ExecuteRequest"
  fields := ["command"]
  field? key := if key = "command" || key = "code" then some "command" else none
  assign _ v _ := v.toOption (Json.Draft.toText "a string")

/-- The script of a submission that is sent, if it has one. -/
def ofDraft (d : Json.Draft) : Except Json.Fault (Option String) :=
  (record.read none d).map Prod.fst

end Tabscript.Submission
