import Mathlib.Algebra.Field.Rat
import Mathlib.Data.List.Induction
import Tabscript.Proofs.WrittenTokens
import Tabscript.Text.Decimal

/-! What the text of a number denotes, by two readings.

A user writes signed decimals. The generated program has the same characters and
reads them by the rules of its own language, where the digits behind a leading zero
are octal. Both readings go by the grammar and mention no scanner. On the texts that
the scanner takes for numbers they agree except in two cases: a point with an exponent
and no digit before it, which is no number in either reading, and a whole number
behind a zero that comes to eight or more. -/
namespace Tabscript.NumeralReadings
open Token TokenStream WrittenTokens

/-- The number that digits denote in a base. -/
def value (base : Nat) (digits : List Char) : Nat :=
  digits.foldl (fun n c => base * n + Text.digitValue c) 0

/-- A number with the sign that its text has in front. -/
def signed {α : Type} [Neg α] (sign : List Char) (x : α) : α :=
  if '-' ∈ sign then -x else x

/-- All digits of a mantissa, scaled down by those behind its point. -/
def mantissaValue (mantissa : List Char) : ℚ :=
  value 10 (mantissa.filter Char.isDigit) / 10 ^ (mantissa.dropWhile Char.isDigit).tail.length

/-- The power of ten that an exponent stands for; without an exponent it is zero. -/
def exponentValue (exponent : List Char) : ℤ :=
  signed exponent (value 10 (exponent.filter Char.isDigit) : ℤ)

/-- What a number denotes as a signed decimal, with leading zeros or without. -/
def DecimalReading (text : List Char) (x : ℚ) : Prop :=
  ∃ sign mantissa exponent, text = sign ++ mantissa ++ exponent ∧ OptionalSign sign ∧ Mantissa mantissa ∧
    Exponent exponent ∧ x = signed sign (mantissaValue mantissa * 10 ^ exponentValue exponent)

/-- Signed digits and the integer they denote as a decimal. -/
def SpelledInteger (text : List Char) (k : ℤ) : Prop :=
  ∃ sign digits, text = sign ++ digits ∧ OptionalSign sign ∧ IsDigits digits ∧ k = signed sign (value 10 digits : ℤ)

def isOctal (c : Char) : Bool :=
  c.isDigit && Text.digitValue c < 8

/-- The numeric literals of the generated program's language without a sign, and what
they denote. Digits alone are decimal unless the first is a zero. Values are exact and
without bounds: what a compiler rounds a literal to, and whether it fits any type of the
language, is left out, so `1e999` denotes a number here like any other. -/
inductive UnsignedLiteral : List Char → ℚ → Prop where
  | decimal {digits : List Char} (given : IsDigits digits) (lead : digits.head? ≠ some '0') :
    UnsignedLiteral digits (value 10 digits)
  | octal {digits : List Char} (inside : ∀ c ∈ digits, isOctal c = true) :
    UnsignedLiteral ('0' :: digits) (value 8 digits)
  | floating {mantissa exponent : List Char} (shape : Mantissa mantissa) (tail : Exponent exponent)
    (marked : '.' ∈ mantissa ∨ exponent ≠ []) :
    UnsignedLiteral (mantissa ++ exponent) (mantissaValue mantissa * 10 ^ exponentValue exponent)

/-- What the generated program reads: a literal, or one with a sign applied to it. -/
def LiteralReading (text : List Char) (x : ℚ) : Prop :=
  ∃ sign body y, text = sign ++ body ∧ OptionalSign sign ∧ UnsignedLiteral body y ∧ x = signed sign y

/-- Both readings of a text are defined, and they are the same number. -/
def Survives (text : List Char) : Prop :=
  ∃ x, (∀ y, DecimalReading text y ↔ y = x) ∧ ∀ y, LiteralReading text y ↔ y = x

/-- A point with an exponent but no digit in front of the exponent. -/
def Hollow (text : List Char) : Prop :=
  ∃ sign exponent, text = sign ++ '.' :: exponent ∧ OptionalSign sign ∧ Exponent exponent ∧ exponent ≠ []

/-- A whole number behind a zero that as a decimal comes to eight or more. -/
def ReadAsOctal (text : List Char) : Prop :=
  ∃ sign digits, text = sign ++ '0' :: digits ∧ OptionalSign sign ∧ (∀ c ∈ digits, c.isDigit = true) ∧
    8 ≤ value 10 digits

variable {base : Nat} {text sign mantissa exponent digits body : List Char} {x : ℚ}

section Digits

theorem value_concat (digits : List Char) (d : Char) :
    value base (digits ++ [d]) = base * value base digits + Text.digitValue d := by
  simp [value]

theorem value_zero_cons (digits : List Char) : value base ('0' :: digits) = value base digits := by
  simp [value, Text.digitValue]

theorem octal_le_decimal (digits : List Char) : value 8 digits ≤ value 10 digits := by
  induction digits using List.reverseRecOn with
  | nil => exact Nat.le_refl 0
  | append_singleton front d ih =>
    rw [value_concat, value_concat]
    omega

private theorem digit_le_value {c : Char} (member : c ∈ digits) : Text.digitValue c ≤ value 10 digits := by
  induction digits using List.reverseRecOn with
  | nil => cases member
  | append_singleton front d ih =>
    rw [value_concat]
    rcases List.mem_append.mp member with inside | last
    · have := ih inside
      omega
    · cases List.mem_singleton.mp last
      exact Nat.le_add_left _ _

/-- Octal and decimal part as soon as a second digit counts. -/
theorem octal_eq_decimal_iff (inside : ∀ c ∈ digits, isOctal c = true) :
    value 8 digits = value 10 digits ↔ value 10 digits < 8 := by
  rcases List.eq_nil_or_concat digits with rfl | ⟨front, d, rfl⟩
  · simp [value]
  · have below := octal_le_decimal front
    have small : Text.digitValue d < 8 := by
      have last := inside d (by simp)
      simp only [isOctal, Bool.and_eq_true, decide_eq_true_eq] at last
      exact last.2
    rw [List.concat_eq_append, value_concat, value_concat]
    omega

end Digits

section Parts

/-- The three parts of a text that looks like a number. Its mantissa may lack digits. -/
structure Parts (sign mantissa exponent text : List Char) : Prop where
  joined : text = sign ++ (mantissa ++ exponent)
  optional : OptionalSign sign
  alphabet : ∀ c ∈ mantissa, isMantissa c = true
  given : mantissa ≠ []
  tail : Exponent exponent

private theorem mantissa_given (shape : Mantissa mantissa) : mantissa ≠ [] := by
  obtain ⟨c, member, _⟩ := mantissa_digit shape
  exact List.ne_nil_of_mem member

theorem point_alone : ¬ Mantissa ['.'] := by
  intro shape
  obtain ⟨c, member, digit⟩ := mantissa_digit shape
  cases List.mem_singleton.mp member
  cases digit

theorem mantissa_parts (optional : OptionalSign sign) (shape : Mantissa mantissa) (tail : Exponent exponent) :
    Parts sign mantissa exponent (sign ++ (mantissa ++ exponent)) :=
  ⟨rfl, optional, mantissa_alphabet shape, mantissa_given shape, tail⟩

theorem point_parts (optional : OptionalSign sign) (tail : Exponent exponent) :
    Parts sign ['.'] exponent (sign ++ '.' :: exponent) :=
  ⟨rfl, optional, by simp [isMantissa], List.cons_ne_nil _ _, tail⟩

private theorem exponent_stops (tail : Exponent exponent) : begins isMantissa exponent = false := by
  have stops : begins isMantissa (exponent ++ []) = false := mantissa_stops tail rfl
  rwa [List.append_nil] at stops

private theorem sign_unique {other otherBody : List Char} (optional : OptionalSign sign)
    (opens : begins isMantissa body = true)
    (otherOptional : OptionalSign other) (otherOpens : begins isMantissa otherBody = true)
    (same : sign ++ body = other ++ otherBody) : sign = other ∧ body = otherBody := by
  have unsigned {c : Char} {front back : List Char} (opens : begins isMantissa front = true)
      (isSign : isSign c = true) : front ≠ c :: back := by
    rintro rfl
    rw [mantissa_unsigned opens] at isSign
    cases isSign
  rcases optional with rfl | ⟨c, first, rfl⟩
  · rcases otherOptional with rfl | ⟨d, second, rfl⟩
    · exact ⟨rfl, same⟩
    · exact absurd same (unsigned opens second)
  · rcases otherOptional with rfl | ⟨d, second, rfl⟩
    · exact absurd same.symm (unsigned otherOpens first)
    · cases same
      exact ⟨rfl, rfl⟩

theorem parts_unique {other otherMantissa otherExponent : List Char} (parts : Parts sign mantissa exponent text)
    (others : Parts other otherMantissa otherExponent text) :
    sign = other ∧ mantissa = otherMantissa ∧ exponent = otherExponent := by
  have opens {sign front back : List Char} (parts : Parts sign front back text) :
      begins isMantissa (front ++ back) = true := by
    cases front with
    | nil => exact absurd rfl parts.given
    | cons c more => exact parts.alphabet c (by simp)
  obtain ⟨signs, rest⟩ := sign_unique parts.optional (opens parts) others.optional (opens others)
    (parts.joined.symm.trans others.joined)
  have stop := exponent_stops parts.tail
  have otherStop := exponent_stops others.tail
  have front := congrArg (List.takeWhile isMantissa) rest
  have back := congrArg (List.dropWhile isMantissa) rest
  rw [take_run parts.alphabet stop, take_run others.alphabet otherStop] at front
  rw [drop_run parts.alphabet stop, drop_run others.alphabet otherStop] at back
  exact ⟨signs, front, back⟩

/-- A decimal reading is decided by any split of the text into its parts. -/
theorem decimal_reading_iff (parts : Parts sign mantissa exponent text) :
    DecimalReading text x ↔
      Mantissa mantissa ∧ x = signed sign (mantissaValue mantissa * 10 ^ exponentValue exponent) := by
  constructor
  · rintro ⟨other, front, back, rfl, optional, shape, tail, rfl⟩
    rw [List.append_assoc] at parts
    obtain ⟨rfl, rfl, rfl⟩ := parts_unique parts (mantissa_parts optional shape tail)
    exact ⟨shape, rfl⟩
  · rintro ⟨shape, rfl⟩
    exact ⟨sign, mantissa, exponent, by rw [parts.joined, List.append_assoc], parts.optional, shape, parts.tail, rfl⟩

end Parts

section Whole

private theorem digits_mantissa (given : IsDigits digits) : mantissaValue digits = value 10 digits := by
  have all : digits.filter Char.isDigit = digits := List.filter_eq_self.mpr given.2
  have none : digits.dropWhile Char.isDigit = [] := List.dropWhile_eq_nil_iff.mpr given.2
  simp [mantissaValue, all, none]

private theorem no_exponent : exponentValue [] = 0 := rfl

private theorem whole_parts (optional : OptionalSign sign) (given : IsDigits digits) :
    Parts sign digits [] (sign ++ digits) := by
  have parts := mantissa_parts optional (.whole given) .none
  rwa [List.append_nil] at parts

/-- Signed digits are read as the integer they spell. -/
theorem spelled_integer_reading {k : ℤ} (spelled : SpelledInteger text k) : DecimalReading text k := by
  obtain ⟨sign, digits, rfl, optional, given, rfl⟩ := spelled
  refine (decimal_reading_iff (whole_parts optional given)).mpr ⟨.whole given, ?_⟩
  rw [digits_mantissa given, no_exponent, zpow_zero, mul_one, signed, signed]
  split <;> simp

private theorem natural_spelled {n : Nat} : Text.natural? digits = some n ↔ IsDigits digits ∧ n = value 10 digits := by
  have same : Text.decimalValue digits = value 10 digits := rfl
  unfold Text.natural?
  rw [same]
  split
  · rename_i outside
    simp only [Bool.or_eq_true, List.isEmpty_iff, Bool.not_eq_true', List.all_eq_false] at outside
    constructor
    · nofun
    · rintro ⟨⟨some, all⟩, _⟩
      rcases outside with none | ⟨c, member, other⟩
      · exact absurd none some
      · exact absurd (all c member) other
  · rename_i inside
    simp only [Bool.or_eq_true, List.isEmpty_iff, Bool.not_eq_true', not_or, Bool.not_eq_false, List.all_eq_true]
      at inside
    constructor
    · intro read
      cases read
      exact ⟨inside, rfl⟩
    · rintro ⟨_, rfl⟩
      rfl

private theorem whole_some {found : Option Nat} {k : ℤ} :
    (do let n ← found; pure (n : ℤ)) = some k ↔ ∃ n, found = some n ∧ k = n := by
  cases found with
  | none => simp
  | some n => simp [eq_comm]

/-- The reader of integers takes exactly the signed digits. -/
theorem integer_spelled {k : ℤ} : Text.integer? text = some k ↔ SpelledInteger text k := by
  have unsigned {digits : List Char} (given : IsDigits digits) {c : Char} (isSign : isSign c = true) :
      ∀ more, digits ≠ c :: more := by
    rintro more rfl
    have mantissa : isMantissa c = true := by simp [isMantissa, given.2 c (by simp)]
    rw [mantissa_unsigned mantissa] at isSign
    cases isSign
  constructor
  · intro read
    unfold Text.integer? at read
    split at read
    all_goals
      obtain ⟨m, whole, rfl⟩ := Option.map_eq_some_iff.mp read
      obtain ⟨n, found, rfl⟩ := whole_some.mp whole
      obtain ⟨given, rfl⟩ := natural_spelled.mp found
    · exact ⟨['-'], _, rfl, .inr ⟨'-', rfl, rfl⟩, given, rfl⟩
    · exact ⟨['+'], _, rfl, .inr ⟨'+', rfl, rfl⟩, given, rfl⟩
    · exact ⟨[], _, rfl, .inl rfl, given, rfl⟩
  · rintro ⟨sign, digits, rfl, optional, given, rfl⟩
    have found : Text.natural? digits = some (value 10 digits) := natural_spelled.mpr ⟨given, rfl⟩
    rcases optional with rfl | ⟨c, isSign, rfl⟩
    · rw [List.nil_append]
      unfold Text.integer?
      split
      · exact absurd rfl (unsigned given rfl _)
      · exact absurd rfl (unsigned given rfl _)
      · rw [found]
        rfl
    · simp only [Token.isSign, Bool.or_eq_true, beq_iff_eq] at isSign
      rcases isSign with rfl | rfl
      · simp [Text.integer?, found, signed]
      · simp [Text.integer?, found, signed]

end Whole

section Literals

private theorem parts_open (parts : Parts sign mantissa exponent text) :
    begins isMantissa (mantissa ++ exponent) = true := by
  cases mantissa with
  | nil => exact absurd rfl parts.given
  | cons c more => exact parts.alphabet c (by simp)

private theorem octal_digits (inside : ∀ c ∈ digits, isOctal c = true) : IsDigits ('0' :: digits) := by
  refine ⟨List.cons_ne_nil _ _, ?_⟩
  rintro c (_ | ⟨_, member⟩)
  · rfl
  · have octal := inside c member
    simp only [isOctal, Bool.and_eq_true] at octal
    exact octal.1

/-- What the characters of a literal are, where its parts are known: digits without a
leading zero, octal digits behind one, or a number with a point or an exponent. -/
theorem unsigned_literal_cases {y : ℚ} (literal : UnsignedLiteral body y) :
    ∃ mantissa exponent, Mantissa mantissa ∧ Parts [] mantissa exponent body ∧
      ((exponent = [] ∧ IsDigits mantissa ∧ mantissa.head? ≠ some '0' ∧ y = value 10 mantissa) ∨
       (exponent = [] ∧ ∃ digits, mantissa = '0' :: digits ∧ (∀ c ∈ digits, isOctal c = true) ∧ y = value 8 digits) ∨
       (('.' ∈ mantissa ∨ exponent ≠ []) ∧ y = mantissaValue mantissa * 10 ^ exponentValue exponent)) := by
  cases literal with
  | decimal given lead =>
    exact ⟨body, [], .whole given, whole_parts (.inl rfl) given, .inl ⟨rfl, given, lead, rfl⟩⟩
  | @octal digits inside =>
    have given := octal_digits inside
    exact ⟨_, [], .whole given, whole_parts (.inl rfl) given, .inr (.inl ⟨rfl, digits, rfl, inside, rfl⟩)⟩
  | floating shape tail marked =>
    exact ⟨_, _, shape, mantissa_parts (.inl rfl) shape tail, .inr (.inr ⟨marked, rfl⟩)⟩

/-- The sign of a literal is the sign of its text. -/
theorem literal_reading_iff (parts : Parts sign mantissa exponent text) :
    LiteralReading text x ↔ ∃ y, UnsignedLiteral (mantissa ++ exponent) y ∧ x = signed sign y := by
  constructor
  · rintro ⟨other, body, y, joined, optional, literal, rfl⟩
    obtain ⟨front, back, _, bare, _⟩ := unsigned_literal_cases literal
    have opens := parts_open bare
    rw [← List.nil_append (front ++ back), ← bare.joined] at opens
    obtain ⟨rfl, rfl⟩ := sign_unique parts.optional (parts_open parts) optional opens
      (parts.joined.symm.trans joined)
    exact ⟨y, literal, rfl⟩
  · rintro ⟨y, literal, rfl⟩
    exact ⟨sign, _, y, parts.joined, parts.optional, literal, rfl⟩

private theorem digits_unpointed (given : IsDigits digits) : '.' ∉ digits :=
  fun member => digit_ne_point (given.2 '.' member) rfl

theorem marked_literal_iff {y : ℚ} (shape : Mantissa mantissa) (tail : Exponent exponent)
    (marked : '.' ∈ mantissa ∨ exponent ≠ []) :
    UnsignedLiteral (mantissa ++ exponent) y ↔ y = mantissaValue mantissa * 10 ^ exponentValue exponent := by
  have parts : Parts [] mantissa exponent (mantissa ++ exponent) := mantissa_parts (.inl rfl) shape tail
  have unmarked (none : exponent = []) (given : IsDigits mantissa) : False := by
    rcases marked with point | some
    · exact digits_unpointed given point
    · exact some none
  constructor
  · intro literal
    obtain ⟨front, back, _, bare, kind⟩ := unsigned_literal_cases literal
    obtain ⟨_, rfl, rfl⟩ := parts_unique parts bare
    rcases kind with ⟨none, given, _⟩ | ⟨none, digits, rfl, inside, _⟩ | ⟨_, rfl⟩
    · exact (unmarked none given).elim
    · exact (unmarked none (octal_digits inside)).elim
    · rfl
  · rintro rfl
    exact .floating shape tail marked

theorem decimal_literal_iff {y : ℚ} (given : IsDigits digits) (lead : digits.head? ≠ some '0') :
    UnsignedLiteral digits y ↔ y = value 10 digits := by
  constructor
  · intro literal
    obtain ⟨front, back, _, bare, kind⟩ := unsigned_literal_cases literal
    obtain ⟨_, rfl, rfl⟩ := parts_unique (whole_parts (.inl rfl) given) bare
    rcases kind with ⟨_, _, _, rfl⟩ | ⟨_, digits, rfl, _⟩ | ⟨point | some, _⟩
    · rfl
    · exact absurd rfl lead
    · exact absurd point (digits_unpointed given)
    · exact absurd rfl some
  · rintro rfl
    exact .decimal given lead

/-- Digits behind a zero have the octal reading or none. -/
theorem octal_literal_iff {y : ℚ} (given : IsDigits ('0' :: digits)) :
    UnsignedLiteral ('0' :: digits) y ↔ (∀ c ∈ digits, isOctal c = true) ∧ y = value 8 digits := by
  constructor
  · intro literal
    obtain ⟨front, back, _, bare, kind⟩ := unsigned_literal_cases literal
    obtain ⟨_, rfl, rfl⟩ := parts_unique (whole_parts (.inl rfl) given) bare
    rcases kind with ⟨_, _, lead, _⟩ | ⟨_, others, same, inside, rfl⟩ | ⟨point | some, _⟩
    · exact absurd rfl lead
    · cases same
      exact ⟨inside, rfl⟩
    · exact absurd point (digits_unpointed given)
    · exact absurd rfl some
  · rintro ⟨inside, rfl⟩
    exact .octal inside

/-- Without a digit before its exponent a text is no literal. -/
theorem hollow_unread (hollow : Hollow text) : ¬ LiteralReading text x := by
  obtain ⟨sign, exponent, rfl, optional, tail, _⟩ := hollow
  rw [literal_reading_iff (point_parts optional tail)]
  rintro ⟨y, literal, _⟩
  obtain ⟨front, back, shape, bare, _⟩ := unsigned_literal_cases literal
  obtain ⟨_, rfl, rfl⟩ := parts_unique (point_parts (.inl rfl) tail) bare
  exact point_alone shape

end Literals

section Survival

private theorem signed_inj {y : ℚ} : signed sign x = signed sign y ↔ x = y := by
  unfold signed
  split
  · exact neg_inj
  · exact Iff.rfl

/-- Both readings of a text with the given parts have the sign of the text, so that it
is enough to compare them without it. -/
private theorem survives_parts (parts : Parts sign mantissa exponent text) (shape : Mantissa mantissa)
    (same : ∀ y, UnsignedLiteral (mantissa ++ exponent) y ↔ y = mantissaValue mantissa * 10 ^ exponentValue exponent) :
    Survives text := by
  refine ⟨signed sign (mantissaValue mantissa * 10 ^ exponentValue exponent), fun y => ?_, fun y => ?_⟩
  · rw [decimal_reading_iff parts]
    exact and_iff_right shape
  · rw [literal_reading_iff parts]
    constructor
    · rintro ⟨z, literal, rfl⟩
      rw [(same z).mp literal]
    · intro given
      exact ⟨_, (same _).mpr rfl, given⟩

private theorem whole_value (given : IsDigits digits) :
    mantissaValue digits * 10 ^ exponentValue [] = (value 10 digits : ℚ) := by
  rw [digits_mantissa given, no_exponent, zpow_zero, mul_one]

theorem survives_unmarked (optional : OptionalSign sign) (given : IsDigits digits)
    (small : ¬ ReadAsOctal (sign ++ digits)) : Survives (sign ++ digits) := by
  refine survives_parts (whole_parts optional given) (.whole given) fun y => ?_
  rw [whole_value given, List.append_nil]
  cases digits with
  | nil => exact absurd rfl given.1
  | cons d more =>
    by_cases zero : d = '0'
    · subst zero
      have all : ∀ c ∈ more, c.isDigit = true := fun c member => given.2 c (List.mem_cons_of_mem _ member)
      have below : value 10 more < 8 := by
        by_contra large
        exact small ⟨sign, more, rfl, optional, all, Nat.le_of_not_lt large⟩
      have inside : ∀ c ∈ more, isOctal c = true := by
        intro c member
        have digit := digit_le_value member
        simp only [isOctal, all c member, Bool.true_and, decide_eq_true_eq]
        omega
      rw [octal_literal_iff given, value_zero_cons, (octal_eq_decimal_iff inside).mpr below]
      exact and_iff_right inside
    · exact decimal_literal_iff given (by simpa using zero)

/-- The two readings of a scanned number agree unless the text is one of the two exceptions. -/
theorem survives_iff (scanned : IsNumber text ∨ Hollow text) :
    Survives text ↔ ¬ (Hollow text ∨ ReadAsOctal text) := by
  constructor
  · rintro ⟨x, decimal, literal⟩
    have asDecimal := (decimal x).mpr rfl
    rintro (⟨sign, exponent, rfl, optional, tail, _⟩ | ⟨sign, digits, rfl, optional, all, large⟩)
    · have parts := point_parts optional tail
      exact point_alone ((decimal_reading_iff parts).mp asDecimal).1
    · have given : IsDigits ('0' :: digits) := ⟨List.cons_ne_nil _ _, by simpa using all⟩
      have parts := whole_parts optional given
      obtain ⟨_, first⟩ := (decimal_reading_iff parts).mp asDecimal
      obtain ⟨y, octal, second⟩ := (literal_reading_iff parts).mp ((literal x).mpr rfl)
      rw [List.append_nil] at octal
      obtain ⟨inside, rfl⟩ := (octal_literal_iff given).mp octal
      rw [first, whole_value given, value_zero_cons, signed_inj, Nat.cast_inj] at second
      have below := (octal_eq_decimal_iff inside).mp second.symm
      omega
  · intro plain
    rcases scanned with ⟨sign, mantissa, exponent, rfl, optional, shape, tail⟩ | hollow
    · rw [List.append_assoc] at plain ⊢
      by_cases marked : '.' ∈ mantissa ∨ exponent ≠ []
      · exact survives_parts (mantissa_parts optional shape tail) shape fun y => marked_literal_iff shape tail marked
      · obtain ⟨unpointed, none⟩ := not_or.mp marked
        cases not_not.mp none
        rw [List.append_nil] at plain ⊢
        cases shape with
        | whole given => exact survives_unmarked optional given fun octal => plain (.inr octal)
        | pointed | fraction => exact absurd (by simp) unpointed
    · exact absurd (.inl hollow) plain

end Survival

section Scanned

private theorem split_sign_optional (cs : List Char) : OptionalSign (splitSign cs).1 := by
  unfold splitSign
  split
  · exact .inl rfl
  · split
    · rename_i c _ sign
      exact .inr ⟨c, sign, rfl⟩
    · exact .inl rfl

/-- The one check of a whole number: at most one point, and a digit anywhere. -/
private theorem finish_number_check {rest left : List Char} {read : String}
    (done : finishNumber text rest = .ok (read, left)) : text.count '.' ≤ 1 ∧ ∃ c ∈ text, c.isDigit = true := by
  unfold finishNumber at done
  split at done
  · cases done
  · rename_i formed
    simp only [gt_iff_lt, Bool.or_eq_true, decide_eq_true_eq, Bool.not_eq_true', not_or, not_lt, Bool.not_eq_false,
      List.any_eq_true] at formed
    exact formed

theorem scan_exponent_parts {front cs rest : List Char} {read : String}
    (scanned : scanExponent front cs = .ok (read, rest)) :
    ∃ exponent, Exponent exponent ∧ read.toList = front ++ exponent ∧ read.toList.count '.' ≤ 1 ∧
      ∃ c ∈ read.toList, c.isDigit = true := by
  have bare {rest left : List Char} (done : finishNumber front rest = .ok (read, left)) :
      ∃ exponent, Exponent exponent ∧ read.toList = front ++ exponent ∧ read.toList.count '.' ≤ 1 ∧
        ∃ c ∈ read.toList, c.isDigit = true := by
    refine ⟨[], .none, ?_⟩
    rw [finish_number_text done, String.toList_ofList, List.append_nil]
    exact ⟨rfl, finish_number_check done⟩
  unfold scanExponent at scanned
  split at scanned
  · exact bare scanned
  · rename_i mark tail
    split at scanned
    · rename_i marks
      dsimp only at scanned
      split at scanned
      · cases scanned
      · rename_i some
        have digits : IsDigits ((splitSign tail).2.takeWhile Char.isDigit) :=
          ⟨by simpa using some, fun c member => List.mem_takeWhile_imp member⟩
        refine ⟨_, .some marks (split_sign_optional tail) digits, ?_⟩
        rw [finish_number_text scanned, String.toList_ofList]
        exact ⟨rfl, finish_number_check scanned⟩
    · exact bare scanned

theorem scan_number_parts {first : Char} {cs rest : List Char} {read : String} (starts : startsNumber first = true)
    (scanned : scanNumber first cs = .ok (read, rest)) :
    ∃ sign mantissa exponent, Parts sign mantissa exponent read.toList ∧ read.toList.count '.' ≤ 1 ∧
      ∃ c ∈ read.toList, c.isDigit = true := by
  unfold scanNumber at scanned
  split at scanned
  · cases scanned
  · rename_i follows
    obtain ⟨exponent, tail, spelled, checked⟩ := scan_exponent_parts scanned
    have run : ∀ c ∈ cs.takeWhile isMantissa, isMantissa c = true := fun c member => List.mem_takeWhile_imp member
    by_cases isSign : isSign first = true
    · refine ⟨[first], cs.takeWhile isMantissa, exponent, ⟨spelled, .inr ⟨first, isSign, rfl⟩, run, ?_, tail⟩, checked⟩
      cases cs with
      | nil => simp [isSign, begins] at follows
      | cons c more =>
        have opens : isMantissa c = true := by simpa [isSign, begins] using follows
        simp [opens]
    · have opens : isMantissa first = true := by simpa [startsNumber, isSign, isMantissa] using starts
      refine ⟨[], first :: cs.takeWhile isMantissa, exponent, ⟨spelled, .inl rfl, ?_, ?_, tail⟩, checked⟩
      · intro c member
        rcases List.mem_cons.mp member with rfl | later
        · exact opens
        · exact run c later
      · exact List.cons_ne_nil _ _

private theorem unpointed_digits (alphabet : ∀ c ∈ body, isMantissa c = true) (none : '.' ∉ body) :
    ∀ c ∈ body, c.isDigit = true := by
  intro c member
  have kind := alphabet c member
  simp only [isMantissa, Bool.or_eq_true, beq_iff_eq] at kind
  rcases kind with digit | rfl
  · exact digit
  · exact absurd member none

/-- With one point at most, a mantissa is well formed unless it is a point alone. -/
private theorem mantissa_or_point (alphabet : ∀ c ∈ mantissa, isMantissa c = true) (given : mantissa ≠ [])
    (points : mantissa.count '.' ≤ 1) : Mantissa mantissa ∨ mantissa = ['.'] := by
  by_cases point : '.' ∈ mantissa
  · obtain ⟨front, back, rfl⟩ := List.append_of_mem point
    rw [List.count_append, List.count_cons_self] at points
    have before := unpointed_digits (fun c member => alphabet c (by simp [member]))
      (List.count_eq_zero.mp (by omega : front.count '.' = 0))
    have behind := unpointed_digits (fun c member => alphabet c (by simp [member]))
      (List.count_eq_zero.mp (by omega : back.count '.' = 0))
    cases front with
    | cons c more => exact .inl (.pointed ⟨List.cons_ne_nil _ _, before⟩ behind)
    | nil =>
      cases back with
      | nil => exact .inr rfl
      | cons c more => exact .inl (.fraction ⟨List.cons_ne_nil _ _, behind⟩)
  · exact .inl (.whole ⟨given, unpointed_digits alphabet point⟩)

/-- What the scanner takes for a number: the numbers of the grammar, and beyond them the
texts whose only digits are those of an exponent. -/
theorem items_number_shape {line : List Char} {s : String} (member : .ok (.number s) ∈ items line) :
    IsNumber s.toList ∨ Hollow s.toList := by
  obtain ⟨c, cs, rest, starts, scanned⟩ := items_scanned member
  obtain ⟨sign, mantissa, exponent, parts, points, digit⟩ := scan_number_parts starts scanned
  have few : mantissa.count '.' ≤ 1 := by
    rw [parts.joined, List.count_append, List.count_append] at points
    omega
  rcases mantissa_or_point parts.alphabet parts.given few with shape | rfl
  · exact .inl ⟨sign, mantissa, exponent, by rw [parts.joined, List.append_assoc], parts.optional, shape, parts.tail⟩
  · refine .inr ⟨sign, exponent, parts.joined, parts.optional, parts.tail, ?_⟩
    rintro rfl
    obtain ⟨d, inside, isDigit⟩ := digit
    rw [parts.joined] at inside
    rcases List.mem_append.mp inside with front | point
    · rcases parts.optional with rfl | ⟨mark, isSign, rfl⟩
      · cases front
      · cases List.mem_singleton.mp front
        have mantissa : isMantissa d = true := by simp [isMantissa, isDigit]
        rw [mantissa_unsigned mantissa] at isSign
        cases isSign
    · cases List.mem_singleton.mp point
      cases isDigit

end Scanned

end Tabscript.NumeralReadings
