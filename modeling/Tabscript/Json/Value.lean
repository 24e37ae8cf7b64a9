import Tabscript.Text.Quoted

/-!
JSON values and how they are written. Numbers are whole, since no other kind is ever written here, and the members
of an object keep their order. `compact` writes a value without any blanks; `indented` puts every item and member
on a line of its own, two spaces deeper than what holds it.
-/
namespace Tabscript

/-- A JSON value. -/
inductive Json where
  | null
  | bool (value : Bool)
  | number (value : Int)
  | string (text : String)
  | array (items : List Json)
  | object (members : List (String × Json))
  deriving Inhabited

namespace Json

/-- A digit of a hexadecimal escape. -/
def hexDigit (n : Nat) : Char :=
  if n < 10 then Char.ofNat (48 + n) else Char.ofNat (87 + n)

/-- How one character is written in a JSON string. -/
def escapeChar (c : Char) : List Char :=
  if c = '\"' then ['\\', '\"']
  else if c = '\\' then ['\\', '\\']
  else if c = '\x08' then ['\\', 'b']
  else if c = '\t' then ['\\', 't']
  else if c = '\n' then ['\\', 'n']
  else if c = '\x0c' then ['\\', 'f']
  else if c = '\r' then ['\\', 'r']
  else if c.toNat < 0x20 then ['\\', 'u', '0', '0', hexDigit (c.toNat / 16), hexDigit (c.toNat % 16)]
  else [c]

def stringText (s : String) : String :=
  String.ofList ('\"' :: (s.toList.flatMap escapeChar ++ ['\"']))

mutual

/-- Writes a value without blanks. -/
def compact : Json → String
  | .null => "null"
  | .bool b => if b then "true" else "false"
  | .number n => toString n
  | .string s => stringText s
  | .array items => "[" ++ compactItems items ++ "]"
  | .object members => Text.braced (compactMembers members)

def compactItems : List Json → String
  | [] => ""
  | [v] => compact v
  | v :: more => compact v ++ "," ++ compactItems more

def compactMembers : List (String × Json) → String
  | [] => ""
  | [(k, v)] => stringText k ++ ":" ++ compact v
  | (k, v) :: more => stringText k ++ ":" ++ compact v ++ "," ++ compactMembers more

end

/-- A line feed and the blanks that begin a line at a depth. -/
def newLine (depth : Nat) : String :=
  String.ofList ('\n' :: List.replicate (2 * depth) ' ')

mutual

/-- Writes a value that stands at the given depth, over several lines. -/
def indentedAt (depth : Nat) : Json → String
  | .null => "null"
  | .bool b => if b then "true" else "false"
  | .number n => toString n
  | .string s => stringText s
  | .array [] => "[]"
  | .array (v :: more) => "[" ++ indentedItems (depth + 1) (v :: more) ++ newLine depth ++ "]"
  | .object [] => Text.braced ""
  | .object (m :: more) => Text.braced (indentedMembers (depth + 1) (m :: more) ++ newLine depth)

def indentedItems (depth : Nat) : List Json → String
  | [] => ""
  | [v] => newLine depth ++ indentedAt depth v
  | v :: more => newLine depth ++ indentedAt depth v ++ "," ++ indentedItems depth more

def indentedMembers (depth : Nat) : List (String × Json) → String
  | [] => ""
  | [(k, v)] => newLine depth ++ stringText k ++ ": " ++ indentedAt depth v
  | (k, v) :: more =>
    newLine depth ++ stringText k ++ ": " ++ indentedAt depth v ++ "," ++ indentedMembers depth more

end

/-- Writes a value over several lines. -/
def indented (v : Json) : String :=
  indentedAt 0 v

end Json
end Tabscript
