/-!
The shortest decimal of a binary floating-point number: the fewest digits that read back as the same number, and of
those with as few digits the one nearest to it. A finite number is taken apart into `mantissa · 2 ^ exponent`; the
numbers that read back as it lie between the two middles to its neighbours, which belong to it exactly when the
mantissa is even. All comparisons are made on natural numbers, so nothing is rounded on the way.
-/
namespace Tabscript.Decimal

/-- The size of a finite binary number, `mantissa · 2 ^ exponent`; `lowest` marks the least mantissa of its exponent,
below which the neighbour is half as far away. -/
structure Binary where
  mantissa : Nat
  exponent : Int
  lowest : Bool

/-- Takes the bit pattern of a finite number apart, without its sign. -/
def Binary.ofBits (bits : Nat) : Binary :=
  let fraction : Nat := bits % Nat.pow 2 52
  let field : Nat := bits / Nat.pow 2 52 % Nat.pow 2 11
  if field = 0 then ⟨fraction, -1074, false⟩
  else ⟨Nat.pow 2 52 + fraction, (field : Int) - 1075, fraction = 0 && 1 < field⟩

/-- A decimal `digits · 10 ^ exponent`. -/
structure Digits where
  digits : Nat
  exponent : Int

/-- Whether a decimal reads back as the number. In quarters of the last place the number is four times its mantissa,
and a decimal has to lie within two of them above, and within two, or one if the mantissa is lowest, below. -/
def readsBack (b : Binary) (d : Digits) : Bool :=
  let low := 4 * b.mantissa - (if b.lowest then 1 else 2)
  let high := 4 * b.mantissa + 2
  let twos := b.exponent - 2
  let left := d.digits * Nat.pow 10 d.exponent.toNat * Nat.pow 2 (-twos).toNat
  let scale := Nat.pow 2 twos.toNat * Nat.pow 10 (-d.exponent).toNat
  if b.mantissa % 2 = 0 then low * scale ≤ left && left ≤ high * scale
  else low * scale < left && left < high * scale

def fraction (b : Binary) : Nat × Nat :=
  (b.mantissa * Nat.pow 2 b.exponent.toNat, Nat.pow 2 (-b.exponent).toNat)

/-- The two decimals next to the number among the multiples of `10 ^ exponent`, the nearer one first; of two that
are equally near, the even one. -/
def neighbours (b : Binary) (exponent : Int) : List Digits :=
  let (num, den) := fraction b
  let num := num * Nat.pow 10 (-exponent).toNat
  let den := den * Nat.pow 10 exponent.toNat
  let below := num / den
  let rest := 2 * (num % den)
  if rest < den || (rest == den && below % 2 == 0) then [⟨below, exponent⟩, ⟨below + 1, exponent⟩]
  else [⟨below + 1, exponent⟩, ⟨below, exponent⟩]

/-- The exponent of the leading digit of the number, found upwards from below the least one there is. -/
def leadingFrom (num den : Nat) : Nat → Int → Int
  | 0, e => e
  | steps + 1, e =>
    if num * Nat.pow 10 (-(e + 1)).toNat < den * Nat.pow 10 (e + 1).toNat then e
    else leadingFrom num den steps (e + 1)

def leading (b : Binary) : Int :=
  let (num, den) := fraction b
  leadingFrom num den 640 (-325)

/-- The first of the given numbers of digits at which a neighbour reads back. -/
def search (b : Binary) (lead : Int) : List Nat → Digits
  | [] => ⟨b.mantissa, b.exponent⟩
  | count :: more =>
    match (neighbours b (lead - count + 1)).find? (readsBack b) with
    | some d => d
    | none => search b lead more

/-- Drops zeros at the end of the digits. -/
def stripZeros : Nat → Digits → Digits
  | 0, d => d
  | steps + 1, d =>
    if d.digits % 10 = 0 && d.digits ≠ 0 then stripZeros steps ⟨d.digits / 10, d.exponent + 1⟩ else d

/-- The shortest decimal of a number that is not zero. -/
def shortest (b : Binary) : Digits :=
  stripZeros 20 (search b (leading b) (List.range' 1 17))

/-- Lays a decimal out: positionally, with a point, when its leading digit stands for at least `10 ^ -5` and less than
`10 ^ 16`, and otherwise with an exponent, which always has a sign. -/
def layout (d : Digits) : String :=
  let ds := Nat.toDigits 10 d.digits
  let lead : Int := d.exponent + ds.length - 1
  if lead < -5 || 15 < lead then
    let sign := if lead < 0 then '-' else '+'
    let point := match ds with
      | [] => []
      | [c] => [c]
      | c :: more => c :: '.' :: more
    String.ofList (point ++ 'e' :: sign :: Nat.toDigits 10 lead.natAbs)
  else if 0 ≤ d.exponent then
    String.ofList (ds ++ List.replicate d.exponent.toNat '0' ++ ['.', '0'])
  else if 0 ≤ lead then
    String.ofList (ds.take (lead.toNat + 1) ++ '.' :: ds.drop (lead.toNat + 1))
  else
    String.ofList ('0' :: '.' :: (List.replicate ((-lead).toNat - 1) '0' ++ ds))

/-- The text of a finite floating-point number. -/
def floatText (x : Float) : String :=
  let bits := x.toBits.toNat
  let sign := if bits / Nat.pow 2 63 = 0 then "" else "-"
  let b := Binary.ofBits (bits % Nat.pow 2 63)
  if b.mantissa = 0 then sign ++ "0.0" else sign ++ layout (shortest b)

end Tabscript.Decimal
