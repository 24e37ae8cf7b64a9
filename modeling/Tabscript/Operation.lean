import Tabscript.Catalog
import Tabscript.Text.Quoted

/-!
Operations: calls that fit the catalog, and the statements they become in the generated program. A text is written as
a string literal with escapes for quotes, backslashes and line breaks, so that no text can end its literal early;
numbers and truth values are written bare, and a list of values stands in braces.
-/
namespace Tabscript

/-- A member of a list of values. -/
inductive Literal where
  | text (text : String)
  | number (text : String)
  | flag (value : Bool)
  deriving DecidableEq, Repr

/-- What an operation has been given for one parameter. -/
inductive Value where
  | text (text : String)
  | number (text : String)
  | flag (value : Bool)
  | list (items : List Literal)
  deriving DecidableEq, Repr

/-- An operation of the catalog, with a value for each of its parameters. -/
structure Operation where
  name : String
  args : List Value
  deriving DecidableEq, Repr

/-- How one character is written in a string literal of the generated program. -/
def escapeChar (c : Char) : List Char :=
  if c = '\"' then ['\\', '\"']
  else if c = '\\' then ['\\', '\\']
  else if c = '\n' then ['\\', 'n']
  else if c = '\r' then ['\\', 'r']
  else if c = '\t' then ['\\', 't']
  else [c]

/-- A text as a string literal of the generated program. -/
def stringLiteral (s : String) : String :=
  String.ofList ('\"' :: (s.toList.flatMap escapeChar ++ ['\"']))

def boolText (b : Bool) : String :=
  if b then "true" else "false"

def Literal.render : Literal → String
  | .text s => stringLiteral s
  | .number s => s
  | .flag b => boolText b

def Value.render : Value → String
  | .text s => stringLiteral s
  | .number s => s
  | .flag b => boolText b
  | .list items => Text.braced (String.intercalate ", " (items.map Literal.render))

/-- The statement that carries out an operation. -/
def Operation.render (op : Operation) : String :=
  op.name ++ "(" ++ String.intercalate ", " (op.args.map Value.render) ++ ");"

end Tabscript
