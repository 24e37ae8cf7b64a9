import Tabscript.Text.Decimal

/-!
Numbers in a JSON text. A number without point and exponent that fits 64 bits is kept exactly; any other is a
floating-point number. Its digits are gathered into 64 bits as long as they fit: digits of the whole part that do not
fit only raise the exponent, and those after the point are dropped. The result is then scaled by a power of ten.
-/
namespace Tabscript.Json

/-- A number of a JSON text. -/
inductive Numeral where
  | natural (value : Nat)
  /-- A negative number, by its size. -/
  | negative (size : Nat)
  | float (value : Float)

/-- The written parts of a number. -/
structure NumeralText where
  minus : Bool
  whole : List Char
  /-- The digits after the point, if there is a point. -/
  places : Option (List Char)
  /-- Whether the exponent is negative, and its digits, if there is an exponent. -/
  power : Option (Bool × List Char)

/-- The first number that 64 bits cannot hold. -/
def wordLimit : Nat := Nat.pow 2 64

/-- Gathers digits onto a number as long as it fits 64 bits; gives the number and the digits that are left. -/
def gatherDigits (n : Nat) : List Char → Nat × List Char
  | [] => (n, [])
  | c :: more =>
    let next := 10 * n + Text.digitValue c
    if next < wordLimit then gatherDigits next more else (n, c :: more)

def powerOfTen (n : Nat) : Float :=
  Float.ofScientific 1 false n

/-- Scales a number down by `10 ^ size`, in steps of at most `10 ^ 308`. -/
def scaleDown : Nat → Float → Nat → Float
  | 0, x, _ => x
  | steps + 1, x, size =>
    if size ≤ 308 then x / powerOfTen size
    else if x == 0.0 then x
    else scaleDown steps (x / powerOfTen 308) (size - 308)

/-- `significand · 10 ^ exponent` as a floating-point number, if it is not too large for one. -/
def scale (significand : Nat) (exponent : Int) : Option Float :=
  let x := (UInt64.ofNat significand).toFloat
  if exponent < 0 then some (scaleDown 4 x exponent.natAbs)
  else if exponent ≤ 308 then
    let y := x * powerOfTen exponent.toNat
    if y.isInf then none else some y
  else if x == 0.0 then some x
  else none

/-- The largest exponent that is computed with. -/
def exponentLimit : Nat := 2147483647

namespace NumeralText

/-- The digits of the number as far as they fit 64 bits, and the exponent that makes up for the others. -/
def significand (t : NumeralText) : Nat × Int :=
  let (n, dropped) := gatherDigits 0 t.whole
  match t.places with
  | none => (n, (dropped.length : Int))
  | some ds =>
    let (m, ignored) := gatherDigits n ds
    (m, (dropped.length : Int) - ((ds.length : Int) - ignored.length))

/-- The size of a number with point or exponent, if it is not too large. -/
def size? (t : NumeralText) : Option Float :=
  let (n, shift) := t.significand
  match t.power with
  | none => scale n shift
  | some (down, ds) =>
    let power := Text.decimalValue ds
    if exponentLimit < power then
      if n = 0 || down then some 0.0 else none
    else scale n (if down then shift - power else shift + power)

/-- The number, if it is not too large. -/
def value? (t : NumeralText) : Option Numeral :=
  let (n, dropped) := gatherDigits 0 t.whole
  if t.places.isNone && t.power.isNone && dropped.isEmpty then
    if t.minus then
      if n = 0 || Nat.pow 2 63 < n then some (.float (-(UInt64.ofNat n).toFloat)) else some (.negative n)
    else some (.natural n)
  else t.size?.map fun x => .float (if t.minus then -x else x)

end NumeralText
end Tabscript.Json
