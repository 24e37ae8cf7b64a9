/-!
Media types as they are declared for the body of a request: a type, a subtype that may end in a suffix after a plus
sign, and parameters. Only whether one stands for JSON is of interest, but parameters that are badly written spoil
the whole.
-/
namespace Tabscript.MediaType

/-- The characters of names and plain values. -/
def isTokenChar (c : Char) : Bool :=
  c.isAlphanum || "!#$%&'*+-.^_`|~".toList.contains c

/-- The characters that may stand between quotes. -/
def isQuotable (c : Char) : Bool :=
  31 < c.toNat && c.toNat != 127

/-- How far the parameters have been read. -/
inductive ParamState where
  /-- Before a name, where blanks may stand and the text may end. -/
  | start
  | name
  /-- After the equals sign. -/
  | equals
  | value
  /-- After the opening quote: a quoted value is never empty. -/
  | quote
  | quoted
  /-- After the closing quote. -/
  | closed
  deriving DecidableEq, Repr

namespace ParamState

/-- Reads one character. -/
def step : ParamState → Char → Option ParamState
  | .start, c => if c = ' ' then some .start else if isTokenChar c then some .name else none
  | .name, c => if isTokenChar c then some .name else if c = '=' then some .equals else none
  | .equals, c => if c = '\"' then some .quote else if isTokenChar c then some .value else none
  | .value, c => if isTokenChar c then some .value else if c = ';' then some .start else none
  | .quote, c => if isQuotable c then some .quoted else none
  | .quoted, c => if c = '\"' then some .closed else if isQuotable c then some .quoted else none
  | .closed, c => if c = ' ' then some .closed else if c = ';' then some .start else none

def mayEnd : ParamState → Bool
  | .start => true
  | .name => false
  | .equals => true
  | .value => true
  | .quote => false
  | .quoted => false
  | .closed => true

/-- Whether the rest of the parameters is well written. -/
def accepts : ParamState → List Char → Bool
  | s, [] => s.mayEnd
  | s, c :: cs =>
    match s.step c with
    | none => false
    | some t => accepts t cs

end ParamState

/-- The place of the last plus sign, unless that is the first character. -/
def lastPlus (subtype : List Char) : Option Nat :=
  (List.range subtype.length).reverse.find? fun i => i != 0 && subtype[i]? == some '+'

/-- Whether a subtype, in small letters, stands for JSON: by itself or by its suffix. -/
def isJsonSubtype (subtype : List Char) : Bool :=
  match lastPlus subtype with
  | none => subtype == "json".toList
  | some i => subtype.take i == "json".toList || subtype.drop (i + 1) == "json".toList

/-- Whether a media type stands for JSON. -/
def isJson (text : String) : Bool :=
  let cs := text.toList
  let kind := cs.takeWhile isTokenChar
  match cs.drop kind.length with
  | '/' :: rest =>
    let subtype := rest.takeWhile isTokenChar
    let paramsFine :=
      match rest.drop subtype.length with
      | [] => true
      | ';' :: params => params.all (·.toNat < 127) && ParamState.accepts .start params
      | _ => false
    paramsFine && kind.map Char.toLower == "application".toList && isJsonSubtype (subtype.map Char.toLower)
  | _ => false

end Tabscript.MediaType
