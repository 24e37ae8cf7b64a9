import Tabscript.Text.Quoted

/-!
Calls as they are written in a script, before they are held against the catalog: a name and arguments, each of which
is a text, a number, a name or a call again.
-/
namespace Tabscript

/-- An argument as written. -/
inductive Expr where
  /-- A text between quotes, with its escapes decoded. -/
  | str (text : String)
  /-- A number, with the text it was written with. -/
  | number (text : String)
  /-- A bare name, which may be `true` or `false`. -/
  | ident (text : String)
  | call (name : String) (args : List Expr)
  deriving Repr, Inhabited

namespace Expr

mutual

/-- An argument as messages show it. -/
def shown : Expr → String
  | .str text => Text.quoted text
  | .number text => text
  | .ident text => text
  | .call name args => name ++ "(" ++ shownAll args ++ ")"

/-- Arguments as messages show them, separated by commas. -/
def shownAll : List Expr → String
  | [] => ""
  | [e] => shown e
  | e :: more => shown e ++ ", " ++ shownAll more

end

/-- An argument as a plain text: without quotes, and otherwise as shown. -/
def text : Expr → String
  | .str text => text
  | .number text => text
  | .ident text => text
  | .call name args => shown (.call name args)

def kind : Expr → String
  | .str _ => "string"
  | .number _ => "number"
  | .ident _ => "identifier"
  | .call _ _ => "nested call"

end Expr

/-- A line of a script that holds a command, with its place in the script. -/
structure Command where
  line : Nat
  text : String
  deriving DecidableEq, Repr

/-- A command that has been read, with the line that it came from. -/
structure Call where
  name : String
  args : List Expr
  line : Nat
  source : String
  deriving Repr

end Tabscript
