import Tabscript.Call
import Tabscript.Fault
import Tabscript.Operation
import Tabscript.Text.Decimal
import Tabscript.Token.Lexer

/-!
Holding a call against the catalog: first the name, then the number of arguments, then each argument against the slot
of its parameter, in order. The first thing that does not fit is the fault.
-/
namespace Tabscript

/-- Why an argument does not fit its slot. -/
inductive Misfit where
  | missing
  | notText (found : Expr)
  | notNumber (found : Expr)
  | notInteger (text : String)
  | notFlag (found : Expr)
  | noValues
  | notValue (found : Expr)

def Misfit.message : Misfit → String
  | .missing => "missing argument"
  | .notText found => "expected a string, found " ++ found.kind
  | .notNumber found => "expected a number, found " ++ found.shown
  | .notInteger text => "expected an integer, found " ++ text
  | .notFlag (.ident text) => "expected true or false, found " ++ Text.quoted text
  | .notFlag found => "expected true or false, found " ++ found.shown
  | .noValues => "expected at least one value"
  | .notValue (.ident text) => "expected a value, found identifier " ++ text
  | .notValue found => "expected a value, found " ++ found.shown

namespace Slot

/-- The number that a text consists of, if it is one number token and nothing else but blanks around it. -/
def numberIn? (s : String) : Option String :=
  let inner := Text.trimmed s
  match Token.items inner.toList with
  | .ok (.number n) :: .ok .eof :: _ => if n = inner then some n else none
  | _ => none

/-- Whether the text of a number is an integer that fits 32 bits. -/
def isInteger (s : String) : Bool :=
  let cs := s.toList
  !cs.any (fun c => c == '.' || c == 'e' || c == 'E') && (Text.integer? cs).any Text.fitsInt32

/-- Truth values, whatever the case of their letters. -/
def bool? (s : String) : Option Bool :=
  let word := s.toList.map Char.toLower
  if word = ['t', 'r', 'u', 'e'] then some true
  else if word = ['f', 'a', 'l', 's', 'e'] then some false
  else none

def readText : Expr → Except Misfit String
  | .str s => .ok s
  | .ident s => .ok s
  | .number s => .ok s
  | found => .error (.notText found)

/-- An argument as the text of a number. -/
def readNumber : Expr → Except Misfit String
  | .number s => .ok s
  | .str s =>
    match numberIn? s with
    | some n => .ok n
    | none => .error (.notNumber (.str s))
  | found => .error (.notNumber found)

def readInteger (e : Expr) : Except Misfit String :=
  match readNumber e with
  | .error misfit => .error misfit
  | .ok s => if isInteger s then .ok s else .error (.notInteger s)

def readFlag : Expr → Except Misfit Bool
  | .ident s =>
    match bool? s with
    | some b => .ok b
    | none => .error (.notFlag (.ident s))
  | .str s =>
    match bool? s with
    | some b => .ok b
    | none => .error (.notFlag (.str s))
  | found => .error (.notFlag found)

/-- An argument as a member of a list of values. -/
def readLiteral : Expr → Except Misfit Literal
  | .str s => .ok (.text s)
  | .number s => .ok (.number s)
  | .ident s =>
    match bool? s with
    | some b => .ok (.flag b)
    | none => .error (.notValue (.ident s))
  | found => .error (.notValue found)

/-- Arguments as members of a list of values; a misfit comes with the place of its argument. -/
def readLiterals (place : Nat) : List Expr → Except (Nat × Misfit) (List Literal)
  | [] => .ok []
  | e :: more =>
    match readLiteral e with
    | .error misfit => .error (place, misfit)
    | .ok literal => (readLiterals (place + 1) more).map (literal :: ·)

/-- Reads the argument at a place, if there is one, for a slot that needs one. -/
def readOne {α : Type} (read : Expr → Except Misfit α) (wrap : α → Value) (place : Nat) :
    List Expr → Except (Nat × Misfit) (Value × List Expr)
  | [] => .error (place, .missing)
  | e :: more =>
    match read e with
    | .error misfit => .error (place, misfit)
    | .ok value => .ok (wrap value, more)

/-- Reads what a slot takes off the arguments that are left, of which the first stands at `place`. -/
def read (slot : Slot) (place : Nat) (args : List Expr) : Except (Nat × Misfit) (Value × List Expr) :=
  match slot with
  | .text => readOne readText .text place args
  | .number => readOne readNumber .number place args
  | .integer => readOne readInteger .number place args
  | .flag default =>
    match args with
    | [] => .ok (.flag default, [])
    | _ :: _ => readOne readFlag .flag place args
  | .values =>
    match args with
    | [] => .error (place, .noValues)
    | _ :: _ => (readLiterals place args).map fun items => (.list items, [])

end Slot

namespace Entry

/-- Reads arguments for parameters in order; the first argument left stands at `place`, counted from zero. -/
def readParams (place : Nat) : List Param → List Expr → Except (Nat × Misfit) (List Value)
  | [], _ => .ok []
  | p :: params, args =>
    match p.slot.read place args with
    | .error misfit => .error misfit
    | .ok (value, rest) => (readParams (place + 1) params rest).map (value :: ·)

/-- The name of the parameter that an argument belongs to; what is too many belongs to the last. -/
def paramName (entry : Entry) (place : Nat) : String :=
  match entry.params[place]? with
  | some p => p.name
  | none =>
    match entry.params.getLast? with
    | some p => p.name
    | none => "argument"

end Entry

/-- The operation that a call asks for, or why it asks for none. -/
def Call.validate (call : Call) : Except Fault Operation :=
  match lookup call.name with
  | none => .error (.unknownFunction call.line call.source call.name)
  | some entry =>
    if entry.arity.accepts call.args.length then
      match Entry.readParams 0 entry.params call.args with
      | .ok args => .ok ⟨entry.name, args⟩
      | .error (place, misfit) =>
        .error (.invalidArgument call.line call.source entry.name (place + 1) (entry.paramName place) misfit.message)
    else .error (.wrongArity call.line call.source entry.name entry.arity call.args.length)

end Tabscript
