import Tabscript.Text.Hidden

/-!
Texts between signs. Messages show a quoted text between double quotes, with a quote, a backslash and a hidden
character written as an escape. A hidden character without an escape of its own is written by its code point in
hexadecimal digits between braces.
-/
namespace Tabscript.Text

/-- The hexadecimal digits of a number, in small letters and without leading zeros. -/
def hexDigits (n : Nat) : List Char :=
  Nat.toDigits 16 n

def quoteChar (c : Char) : List Char :=
  if c = '\"' then ['\\', '\"']
  else if c = '\\' then ['\\', '\\']
  else if c = '\n' then ['\\', 'n']
  else if c = '\r' then ['\\', 'r']
  else if c = '\t' then ['\\', 't']
  else if c = '\x00' then ['\\', '0']
  else if isHidden c then '\\' :: 'u' :: '{' :: (hexDigits c.toNat ++ ['}'])
  else [c]

/-- A text between quotes, with escapes. -/
def quoted (s : String) : String :=
  String.ofList ('\"' :: (s.toList.flatMap quoteChar ++ ['\"']))

/-- A text between braces, as it is. -/
def braced (body : String) : String :=
  '{'.toString ++ body ++ '}'.toString

@[simp] theorem toList_braced (body : String) : (braced body).toList = '{' :: (body.toList ++ ['}']) := by
  simp [braced, Char.toString]

end Tabscript.Text
