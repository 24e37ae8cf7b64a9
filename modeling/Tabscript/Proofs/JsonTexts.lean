import Tabscript.Json.Decode
import Tabscript.Proofs.WrittenTokens

/-! The grammar of JSON texts, and that the reader follows it.

A text is described by what it stands for: a value between blanks, the items of an array, the
members of an object. The description leaves open where blanks stand and how a string is
escaped, and it says nothing of fuel, defects or readers who keep less than others. A text of
the grammar is read as the value that it stands for, up to its last character. -/
namespace Tabscript.JsonTexts
open Json
open WrittenTokens (IsDigits take_run drop_run)
open Token (begins)

/-- Blanks between the signs of a text. -/
def Space (gap : List Char) : Prop :=
  ∀ c ∈ gap, isSpace c = true

/-- What a string is made of: characters, and numbers of 16 bits that stand for a character or
for half of one. -/
inductive StringUnit where
  | char (c : Char)
  | code (n : Nat)

/-- The letters with a meaning behind a backslash, and their meaning. -/
def shortEscapes : List (Char × Char) :=
  [('\"', '\"'), ('\\', '\\'), ('/', '/'), ('b', '\x08'), ('f', '\x0c'), ('n', '\n'), ('r', '\r'), ('t', '\t')]

/-- The ways to write a unit. -/
inductive UnitForm : StringUnit → List Char → Prop where
  | plain {c : Char} (visible : 0x20 ≤ c.toNat) (unquoted : c ≠ '\"') (unescaped : c ≠ '\\') : UnitForm (.char c) [c]
  | short {letter c : Char} (stands : (letter, c) ∈ shortEscapes) : UnitForm (.char c) ['\\', letter]
  | code {a b c d : Char} {i j k l : Nat} (first : hexValue? a = some i) (second : hexValue? b = some j)
    (third : hexValue? c = some k) (fourth : hexValue? d = some l) :
    UnitForm (.code (((i * 16 + j) * 16 + k) * 16 + l)) ['\\', 'u', a, b, c, d]

inductive UnitsForm : List StringUnit → List Char → Prop where
  | nil : UnitsForm [] []
  | cons {u : StringUnit} {more : List StringUnit} {form forms : List Char} (head : UnitForm u form)
    (tail : UnitsForm more forms) : UnitsForm (u :: more) (form ++ forms)

def isHigh (n : Nat) : Bool :=
  0xD800 ≤ n && n ≤ 0xDBFF

def isLow (n : Nat) : Bool :=
  0xDC00 ≤ n && n ≤ 0xDFFF

/-- The characters of a string. Half a character counts only if the other half is beside it. -/
def characters : List StringUnit → Option (List Char)
  | [] => some []
  | .char c :: more => (characters more).map (c :: ·)
  | .code n :: more =>
    if isLow n then none
    else if isHigh n then
      match more with
      | .code m :: rest =>
        if isLow m then (characters rest).map (Char.ofNat (0x10000 + (n - 0xD800) * 1024 + (m - 0xDC00)) :: ·) else none
      | _ => none
    else (characters more).map (Char.ofNat n :: ·)

/-- The text that a string stands for, unless half a character makes it none. -/
def content (units : List StringUnit) : Except Json.Fault String :=
  match characters units with
  | some cs => .ok (String.ofList cs)
  | none => .error .malformed

/-- The whole part of a number; a zero in front has no digit behind it. -/
def WholeForm (digits : List Char) : Prop :=
  IsDigits digits ∧ (digits.head? = some '0' → digits = ['0'])

inductive FractionForm : Option (List Char) → List Char → Prop where
  | none : FractionForm none []
  | some {digits : List Char} (given : IsDigits digits) : FractionForm (some digits) ('.' :: digits)

inductive PowerForm : Option (Bool × List Char) → List Char → Prop where
  | none : PowerForm none []
  | up {mark : Char} {sign digits : List Char} (marks : mark = 'e' ∨ mark = 'E') (signed : sign = [] ∨ sign = ['+'])
    (given : IsDigits digits) : PowerForm (some (false, digits)) (mark :: (sign ++ digits))
  | down {mark : Char} {digits : List Char} (marks : mark = 'e' ∨ mark = 'E') (given : IsDigits digits) :
    PowerForm (some (true, digits)) (mark :: '-' :: digits)

inductive NumeralForm : NumeralText → List Char → Prop where
  | mk {minus : Bool} {whole fraction exponent : List Char} {places : Option (List Char)}
    {power : Option (Bool × List Char)} (lead : WholeForm whole) (behind : FractionForm places fraction)
    (scaled : PowerForm power exponent) :
    NumeralForm ⟨minus, whole, places, power⟩ ((if minus then ['-'] else []) ++ (whole ++ (fraction ++ exponent)))

/-- What a stretch of a text may stand for. -/
inductive Stretch where
  | value (d : Draft)
  /-- A value between blanks. -/
  | padded (d : Draft)
  | items (ds : List Draft)
  | member (key : Name) (d : Draft)
  | members (ms : List (Name × Draft))

/-- The texts that stand for something. A comma stands only between two items or members. -/
inductive Writes : Stretch → List Char → Prop where
  | null : Writes (.value .null) ['n', 'u', 'l', 'l']
  | yes : Writes (.value (.bool true)) ['t', 'r', 'u', 'e']
  | no : Writes (.value (.bool false)) ['f', 'a', 'l', 's', 'e']
  | number {t : NumeralText} {cs : List Char} (form : NumeralForm t cs) : Writes (.value (numberDraft t)) cs
  | string {units : List StringUnit} {body : List Char} (form : UnitsForm units body) :
    Writes (.value (.string (content units))) ('\"' :: (body ++ ['\"']))
  | emptyArray {gap : List Char} (space : Space gap) : Writes (.value (.array [] none)) ('[' :: (gap ++ [']']))
  | array {ds : List Draft} {cs : List Char} (inside : Writes (.items ds) cs) :
    Writes (.value (.array ds none)) ('[' :: (cs ++ [']']))
  | emptyObject {gap : List Char} (space : Space gap) :
    Writes (.value (.object [] none)) ('{' :: (gap ++ ['}']))
  | object {ms : List (Name × Draft)} {cs : List Char} (inside : Writes (.members ms) cs) :
    Writes (.value (.object ms none)) ('{' :: (cs ++ ['}']))
  | padded {d : Draft} {before cs after : List Char} (front : Space before) (back : Space after)
    (value : Writes (.value d) cs) : Writes (.padded d) (before ++ (cs ++ after))
  | lastItem {d : Draft} {cs : List Char} (value : Writes (.padded d) cs) : Writes (.items [d]) cs
  | item {d : Draft} {ds : List Draft} {cs rest : List Char} (value : Writes (.padded d) cs)
    (others : Writes (.items ds) rest) : Writes (.items (d :: ds)) (cs ++ ',' :: rest)
  | member {units : List StringUnit} {d : Draft} {before body gap cs : List Char} (front : Space before)
    (named : UnitsForm units body) (space : Space gap) (value : Writes (.padded d) cs) :
    Writes (.member (.text (content units)) d) (before ++ '\"' :: (body ++ '\"' :: (gap ++ ':' :: cs)))
  | lastMember {key : Name} {d : Draft} {cs : List Char} (first : Writes (.member key d) cs) :
    Writes (.members [(key, d)]) cs
  | nextMember {key : Name} {d : Draft} {ms : List (Name × Draft)} {cs rest : List Char}
    (first : Writes (.member key d) cs) (others : Writes (.members ms) rest) :
    Writes (.members ((key, d) :: ms)) (cs ++ ',' :: rest)

/-- A JSON text, and the value that it stands for. -/
def IsText (d : Draft) (text : String) : Prop :=
  Writes (.padded d) text.toList

section Blanks

variable {gap line more : List Char} {c : Char}

theorem skip_gap (space : Space gap) (line : List Char) : skipSpace (gap ++ line) = skipSpace line :=
  List.dropWhile_append_of_pos space

private theorem skip_solid (solid : isSpace c = false) : skipSpace (c :: more) = c :: more :=
  List.dropWhile_cons_of_neg (Bool.eq_false_iff.mp solid)

theorem skip_all (space : Space gap) : skipSpace gap = [] := by
  have skipped := skip_gap space []
  rwa [List.append_nil] at skipped

private theorem read_value_gap (space : Space gap) (fuel : Nat) (line : List Char) :
    readValue fuel (gap ++ line) = readValue fuel line := by
  cases fuel with
  | zero => rw [readValue, readValue]
  | succ fuel => rw [readValue, readValue, skip_gap space]

private theorem read_items_gap (space : Space gap) (fuel : Nat) (line : List Char) :
    readItems fuel (gap ++ line) = readItems fuel line := by
  cases fuel with
  | zero => rw [readItems, readItems]
  | succ fuel => rw [readItems, readItems, read_value_gap space]

private theorem read_members_gap (space : Space gap) (fuel : Nat) (line : List Char) :
    readMembers fuel (gap ++ line) = readMembers fuel line := by
  cases fuel with
  | zero => rw [readMembers, readMembers]
  | succ fuel => rw [readMembers, readMembers, skip_gap space]

end Blanks

section Strings

variable {held rest body form : List Char} {c d : Char} {n : Nat} {units : List StringUnit}

private theorem keep_plain (visible : 0x20 ≤ c.toNat) (unquoted : c ≠ '\"') (unescaped : c ≠ '\\') :
    keepString 0 held (c :: rest) = keepString 0 (c :: held) rest := by
  rw [keepString, if_neg unquoted, if_neg unescaped, if_neg (Nat.not_lt.mpr visible)]

private theorem keep_escape (known : escape rest = .ok (d, n)) :
    keepString 0 held ('\\' :: rest) = keepString n (d :: held) rest := by
  rw [keepString, if_neg (by decide), if_pos rfl, known]

theorem keep_fault {f : Json.Fault} (unknown : escape rest = .error f) :
    keepString 0 held ('\\' :: rest) = .error f := by
  rw [keepString, if_neg (by decide), if_pos rfl, unknown]

/-- The characters of an escape that was read are passed over. -/
private theorem keep_taken (held rest : List Char) {taken : List Char} (size : taken.length = n) :
    keepString n held (taken ++ rest) = keepString 0 held rest := by
  induction taken generalizing n with
  | nil =>
    cases size
    rfl
  | cons c more ih =>
    cases size
    rw [List.cons_append, List.length_cons, keepString]
    exact ih rfl

private theorem short_escape_known (rest : List Char) {letter : Char} (stands : (letter, c) ∈ shortEscapes) :
    escape (letter :: rest) = .ok (c, 1) ∧ letter ≠ 'u' ∧ (shortEscape? letter).isSome = true := by
  simp only [shortEscapes, List.mem_cons, Prod.mk.injEq, List.not_mem_nil, or_false] at stands
  rcases stands with ⟨rfl, rfl⟩ | ⟨rfl, rfl⟩ | ⟨rfl, rfl⟩ | ⟨rfl, rfl⟩ | ⟨rfl, rfl⟩ | ⟨rfl, rfl⟩ | ⟨rfl, rfl⟩ |
    ⟨rfl, rfl⟩
  all_goals exact ⟨rfl, by decide, rfl⟩

theorem keep_char (form : UnitForm (.char c) body) :
    keepString 0 held (body ++ rest) = keepString 0 (c :: held) rest := by
  cases form with
  | plain visible unquoted unescaped => exact keep_plain visible unquoted unescaped
  | @short letter _ stands =>
    calc keepString 0 held ('\\' :: letter :: rest)
        = keepString 1 (c :: held) (letter :: rest) := keep_escape (short_escape_known rest stands).1
      _ = keepString 0 (c :: held) rest := keep_taken (c :: held) rest (List.length_singleton (a := letter))

/-- A number of 16 bits in front of a string: its digits, and what they come to whatever follows. -/
private theorem units_code {more : List StringUnit} (form : UnitsForm (.code n :: more) body) :
    ∃ digits forms, UnitsForm more forms ∧ digits.length = 4 ∧ (∀ rest, hex4 (digits ++ rest) = .ok n) ∧
      ∀ rest, body ++ rest = '\\' :: 'u' :: (digits ++ (forms ++ rest)) := by
  cases form with
  | cons head tail =>
    cases head with
    | @code a b c d _ _ _ _ first second third fourth =>
      refine ⟨[a, b, c, d], _, tail, rfl, fun rest => ?_, fun rest => rfl⟩
      rw [List.cons_append, List.cons_append, List.cons_append, List.cons_append, hex4, first, second, third, fourth]

private theorem escape_code {digits : List Char} (four : digits.length = 4) (value : hex4 (digits ++ rest) = .ok n) :
    escape ('u' :: (digits ++ rest)) =
      if isLow n then .error .malformed
      else if isHigh n then (lowHalf n rest).map fun e => (e, 11)
      else .ok (Char.ofNat n, 5) := by
  rw [escape, value, ← four, List.drop_left]
  rfl

private theorem low_half_code {m : Nat} {digits : List Char} (value : hex4 (digits ++ rest) = .ok m) :
    lowHalf n ('\\' :: 'u' :: (digits ++ rest)) =
      if isLow m then .ok (Char.ofNat (0x10000 + (n - 0xD800) * 1024 + (m - 0xDC00))) else .error .malformed := by
  rw [lowHalf, value]
  rfl

/-- What is left of a string is no second half if its next unit is no number. -/
private theorem low_half_missing (form : UnitsForm units body) (other : ∀ m more, units ≠ .code m :: more) :
    lowHalf n (body ++ '\"' :: rest) = .error .malformed := by
  cases form with
  | nil => rfl
  | cons head tail =>
    cases head with
    | plain visible unquoted unescaped => simp [lowHalf, unescaped]
    | short stands => simp [lowHalf, (short_escape_known [] stands).2.1]
    | code => exact absurd rfl (other _ _)

/-- What a reader who keeps a string makes of it, behind the text held so far. -/
def keptAs (held rest : List Char) : Option (List Char) → Except Json.Fault (String × List Char)
  | none => .error .malformed
  | some cs => .ok (String.ofList (held.reverse ++ cs), rest)

theorem kept_as_cons (held rest : List Char) (c : Char) (found : Option (List Char)) :
    keptAs held rest (found.map (c :: ·)) = keptAs (c :: held) rest found := by
  cases found with
  | none => rfl
  | some cs => simp [keptAs]

/-- A string is kept as its characters. The induction goes by units and not by characters of
the text, since a number of 16 bits may need the next one. -/
theorem keep_units (form : UnitsForm units body) :
    keepString 0 held (body ++ '\"' :: rest) = keptAs held rest (characters units) := by
  induction units using characters.induct generalizing held body with
  | case1 =>
    cases form
    rw [List.nil_append, keepString, if_pos rfl, characters, keptAs, List.append_nil]
  | case2 c more ih =>
    cases form with
    | cons head tail =>
      rw [List.append_assoc, keep_char head, characters, kept_as_cons]
      exact ih tail
  | case3 n more low =>
    obtain ⟨digits, forms, _, four, value, split⟩ := units_code form
    have unknown := escape_code four (value (forms ++ '\"' :: rest))
    rw [if_pos low] at unknown
    have none : characters (.code n :: more) = none := by
      rw [characters.eq_def]
      simp [low]
    rw [split, keep_fault unknown, none, keptAs]
  | case4 n low high m more second ih =>
    obtain ⟨digits, forms, tail, four, value, split⟩ := units_code form
    obtain ⟨digits', forms', tail', four', value', split'⟩ := units_code tail
    have known := escape_code four (value (forms ++ '\"' :: rest))
    rw [if_neg low, if_pos high, split', low_half_code (value' _), if_pos second] at known
    have whole : characters (.code n :: .code m :: more) =
        (characters more).map (Char.ofNat (0x10000 + (n - 0xD800) * 1024 + (m - 0xDC00)) :: ·) := by
      simp [characters, low, high, second]
    have taken : ('u' :: (digits ++ '\\' :: 'u' :: digits')).length = 11 := by simp [four, four']
    have passed (held : List Char) := keep_taken held (forms' ++ '\"' :: rest) taken
    simp only [List.cons_append, List.append_assoc] at passed
    rw [split, split', keep_escape known, passed, ih tail', whole, kept_as_cons]
  | case5 n low high m more second =>
    obtain ⟨digits, forms, tail, four, value, split⟩ := units_code form
    obtain ⟨digits', forms', _, _, value', split'⟩ := units_code tail
    have unknown := escape_code four (value (forms ++ '\"' :: rest))
    rw [if_neg low, if_pos high, split', low_half_code (value' _), if_neg second] at unknown
    rw [split, split', keep_fault unknown]
    simp [characters, low, high, second, keptAs]
  | case6 n more low high other =>
    obtain ⟨digits, forms, tail, four, value, split⟩ := units_code form
    have unknown := escape_code four (value (forms ++ '\"' :: rest))
    rw [if_neg low, if_pos high, low_half_missing tail other] at unknown
    rw [split, keep_fault unknown]
    simp [characters, low, high, keptAs]
  | case7 n more low high ih =>
    obtain ⟨digits, forms, tail, four, value, split⟩ := units_code form
    have known := escape_code four (value (forms ++ '\"' :: rest))
    rw [if_neg low, if_neg high] at known
    have taken : ('u' :: digits).length = 5 := by simp [four]
    have passed (held : List Char) := keep_taken held (forms ++ '\"' :: rest) taken
    rw [List.cons_append] at passed
    have whole : characters (.code n :: more) = (characters more).map (Char.ofNat n :: ·) := by
      rw [characters.eq_def]
      simp [low, high]
    rw [split, keep_escape known, passed, ih tail, whole, kept_as_cons]

private theorem pass_unit {u : StringUnit} (form : UnitForm u body) :
    passString 0 (body ++ rest) = passString 0 rest := by
  cases form with
  | plain visible unquoted unescaped =>
    rw [List.singleton_append, passString, if_neg unquoted, if_neg unescaped, if_neg (Nat.not_lt.mpr visible)]
  | short stands =>
    simp [passString, escapeLength, (short_escape_known [] stands).2]
  | code first second third fourth =>
    simp [passString, escapeLength, hex4, first, second, third, fourth, Except.map]

theorem pass_units (form : UnitsForm units body) : passString 0 (body ++ '\"' :: rest) = .ok rest := by
  induction form with
  | nil => rw [List.nil_append, passString, if_pos rfl]
  | cons head tail ih => rw [List.append_assoc, pass_unit head, ih]

/-- A string is read as what it stands for, and passed over if that is no text. -/
theorem read_text_units (form : UnitsForm units body) :
    readText (body ++ '\"' :: rest) = (.text (content units), some rest) := by
  rw [readText, keep_units form, pass_units form, content]
  cases characters units <;> rfl

end Strings

/-- A character that ends a value, if anything does. -/
def closes (c : Char) : Bool :=
  isSpace c || c == ',' || c == ']' || c == '}'

/-- What may follow a value. -/
def Delimited (rest : List Char) : Prop :=
  begins (fun c => !closes c) rest = false

section Numbers

variable {digits fraction exponent rest : List Char} {minus : Bool} {whole : List Char} {places : Option (List Char)}
variable {power : Option (Bool × List Char)} {t : NumeralText}

/-- The end of a value goes on with no number. -/
private theorem delimited_apart (delimited : Delimited rest) :
    begins Char.isDigit rest = false ∧ rest.head? ∉ [some '.', some 'e', some 'E'] := by
  cases rest with
  | nil => exact ⟨rfl, by decide⟩
  | cons c more =>
    have closed : closes c = true := by simpa [Delimited, begins] using delimited
    simp only [closes, isSpace, Bool.or_eq_true, beq_iff_eq] at closed
    rcases closed with (((((rfl | rfl) | rfl) | rfl) | rfl) | rfl) | rfl
    all_goals exact ⟨rfl, by simp⟩

private theorem digit_no_sign {c : Char} (digit : c.isDigit = true) : c ≠ '-' ∧ c ≠ '+' := by
  refine ⟨?_, ?_⟩
  all_goals
    rintro rfl
    revert digit
    decide

private theorem power_digits (given : IsDigits digits) (stop : begins Char.isDigit rest = false) :
    (digits ++ rest).takeWhile Char.isDigit = digits ∧ (digits ++ rest).dropWhile Char.isDigit = rest ∧
      digits.isEmpty = false :=
  ⟨take_run given.2 stop, drop_run given.2 stop, by simp [given.1]⟩

private theorem read_power_down (given : IsDigits digits) (stop : begins Char.isDigit rest = false) :
    readPower t ('-' :: (digits ++ rest)) = (numberDraft { t with power := some (true, digits) }, some rest) := by
  obtain ⟨taken, left, some⟩ := power_digits given stop
  simp [readPower, taken, left, some]

private theorem read_power_up {sign : List Char} (signed : sign = [] ∨ sign = ['+']) (given : IsDigits digits)
    (stop : begins Char.isDigit rest = false) :
    readPower t (sign ++ (digits ++ rest)) = (numberDraft { t with power := some (false, digits) }, some rest) := by
  obtain ⟨taken, left, some⟩ := power_digits given stop
  rcases signed with rfl | rfl
  · obtain ⟨c, more, rfl⟩ := List.exists_cons_of_ne_nil given.1
    obtain ⟨minus, plus⟩ := digit_no_sign (given.2 c List.mem_cons_self)
    rw [List.cons_append] at taken left
    simp [readPower, minus, plus, taken, left]
  · simp [readPower, taken, left, some]

variable (minus whole places) in
theorem read_exponent_form (form : PowerForm power exponent) (delimited : Delimited rest) :
    readExponent ⟨minus, whole, places, none⟩ (exponent ++ rest) =
      (numberDraft ⟨minus, whole, places, power⟩, some rest) := by
  obtain ⟨stop, apart⟩ := delimited_apart delimited
  cases form with
  | none =>
    cases rest with
    | nil => rfl
    | cons c more =>
      have unmarked : c ≠ 'e' ∧ c ≠ 'E' := by simpa using (not_or.mp (List.mem_cons.not.mp apart)).2
      simp [readExponent, unmarked]
  | up marks signed given =>
    rw [List.cons_append, List.append_assoc]
    rcases marks with rfl | rfl
    · exact read_power_up signed given stop
    · exact read_power_up signed given stop
  | down marks given =>
    rw [List.cons_append, List.cons_append]
    rcases marks with rfl | rfl
    · exact read_power_down given stop
    · exact read_power_down given stop

/-- Neither an exponent nor the end of a value goes on with a whole part. -/
private theorem exponent_apart (form : PowerForm power exponent) (delimited : Delimited rest) :
    begins Char.isDigit (exponent ++ rest) = false ∧ (exponent ++ rest).head? ≠ some '.' := by
  cases form with
  | none =>
    obtain ⟨stop, apart⟩ := delimited_apart delimited
    rw [List.nil_append]
    exact ⟨stop, fun point => apart (by simp [point])⟩
  | up marks | down marks => rcases marks with rfl | rfl <;> exact ⟨rfl, by simp⟩

theorem read_fraction_form (behind : FractionForm places fraction) (scaled : PowerForm power exponent)
    (delimited : Delimited rest) :
    readFraction ⟨minus, whole, none, none⟩ (fraction ++ (exponent ++ rest)) =
      (numberDraft ⟨minus, whole, places, power⟩, some rest) := by
  obtain ⟨stop, point⟩ := exponent_apart scaled delimited
  have read := read_exponent_form minus whole places scaled delimited
  cases behind with
  | none =>
    rw [List.nil_append, ← read]
    unfold readFraction
    split
    · rename_i split
      rw [split] at point
      exact absurd rfl point
    · rfl
  | some given =>
    obtain ⟨taken, left, some⟩ := power_digits given stop
    simp only [List.cons_append, readFraction, taken, left, some]
    exact read

private theorem fraction_apart (behind : FractionForm places fraction) (scaled : PowerForm power exponent)
    (delimited : Delimited rest) : begins Char.isDigit (fraction ++ (exponent ++ rest)) = false := by
  cases behind with
  | none => exact (exponent_apart scaled delimited).1
  | some => rfl

/-- A number is read after its sign. -/
theorem read_number_form (lead : WholeForm whole) (behind : FractionForm places fraction)
    (scaled : PowerForm power exponent) (delimited : Delimited rest) :
    readNumber minus (whole ++ (fraction ++ (exponent ++ rest))) =
      (numberDraft ⟨minus, whole, places, power⟩, some rest) := by
  obtain ⟨taken, left, _⟩ := power_digits lead.1 (fraction_apart behind scaled delimited)
  unfold readNumber
  rw [taken, left]
  dsimp only
  split
  · exact absurd rfl lead.1.1
  · exact absurd (lead.2 rfl) (by simp)
  · exact read_fraction_form behind scaled delimited

end Numbers

section Values

variable {d : Draft} {ds : List Draft} {key : Name} {ms : List (Name × Draft)} {cs rest more : List Char} {c : Char}
variable {fuel : Nat}

private theorem space_delimited {gap : List Char} (space : Space gap) (delimited : Delimited rest) :
    Delimited (gap ++ rest) := by
  cases gap with
  | nil => exact delimited
  | cons c more =>
    have blank : isSpace c = true := space c List.mem_cons_self
    simp [Delimited, begins, closes, blank]

/-- A value begins with a character that is neither blank nor a closing bracket. -/
private theorem value_opens (writes : Writes (.value d) cs) :
    ∃ c more, cs = c :: more ∧ isSpace c = false ∧ c ≠ ']' := by
  cases writes with
  | null | yes | no | string | emptyArray | array | emptyObject | object => exact ⟨_, _, rfl, rfl, by decide⟩
  | number form =>
    cases form with
    | @mk minus whole _ _ _ _ lead =>
      cases minus with
      | true => exact ⟨_, _, rfl, rfl, by decide⟩
      | false =>
        obtain ⟨c, more, rfl⟩ := List.exists_cons_of_ne_nil lead.1.1
        have digit := lead.1.2 c List.mem_cons_self
        refine ⟨c, _, rfl, ?_, ?_⟩
        · apply Bool.eq_false_iff.mpr
          intro blank
          simp only [isSpace, Bool.or_eq_true, beq_iff_eq] at blank
          rcases blank with ((rfl | rfl) | rfl) | rfl <;> revert digit <;> decide
        · rintro rfl
          revert digit
          decide

private theorem items_open (writes : Writes (.items ds) cs) :
    ∃ gap c more, cs = gap ++ c :: more ∧ Space gap ∧ isSpace c = false ∧ c ≠ ']' := by
  have padded {d : Draft} {cs : List Char} (writes : Writes (.padded d) cs) :
      ∃ gap c more, cs = gap ++ c :: more ∧ Space gap ∧ isSpace c = false ∧ c ≠ ']' := by
    cases writes with
    | padded front back value =>
      obtain ⟨c, more, rfl, solid, other⟩ := value_opens value
      exact ⟨_, c, _, rfl, front, solid, other⟩
  cases writes with
  | lastItem value => exact padded value
  | @item _ _ first rest value others =>
    obtain ⟨gap, c, more, rfl, space, solid, other⟩ := padded value
    exact ⟨gap, c, more ++ ',' :: rest, by simp, space, solid, other⟩

private theorem members_open (writes : Writes (.members ms) cs) : ∃ gap more, cs = gap ++ '\"' :: more ∧ Space gap := by
  have member {key : Name} {d : Draft} {cs : List Char} (writes : Writes (.member key d) cs) :
      ∃ gap more, cs = gap ++ '\"' :: more ∧ Space gap := by
    cases writes with
    | member front => exact ⟨_, _, rfl, front⟩
  cases writes with
  | lastMember first => exact member first
  | @nextMember _ _ _ cs rest first others =>
    obtain ⟨gap, more, rfl, space⟩ := member first
    exact ⟨gap, more ++ ',' :: rest, by simp, space⟩

private theorem read_scalar_value (solid : isSpace c = false) (array : c ≠ '[') (object : c ≠ '{') :
    readValue (fuel + 1) (c :: rest) = readScalar c rest := by
  rw [readValue, skip_solid solid]
  dsimp only
  rw [if_neg array, if_neg object]

private theorem read_digit_scalar (digit : c.isDigit = true) :
    readValue (fuel + 1) (c :: rest) = readNumber false (c :: rest) := by
  have other (e : Char) (none : e.isDigit = false) : c ≠ e := by
    rintro rfl
    rw [digit] at none
    cases none
  have solid : isSpace c = false := by
    simp [isSpace, other ' ' rfl, other '\n' rfl, other '\t' rfl, other '\r' rfl]
  rw [read_scalar_value solid (other _ rfl) (other _ rfl), readScalar, if_neg (other _ rfl), if_neg (other _ rfl),
    if_neg (other _ rfl), if_neg (other _ rfl), if_neg (other _ rfl), if_pos digit]

/-- A value between blanks is read, and the blanks behind it are left. -/
def ReadsPadded (d : Draft) (cs : List Char) : Prop :=
  ∀ fuel rest, cs.length ≤ fuel → Delimited rest →
    ∃ after, Space after ∧ readValue (fuel + 1) (cs ++ rest) = (d, some (after ++ rest))

/-- What the reader makes of a stretch, given fuel for all of it. -/
def Reads : Stretch → List Char → Prop
  | .value d, cs => ∀ fuel rest, cs.length ≤ fuel → Delimited rest →
    readValue (fuel + 1) (cs ++ rest) = (d, some rest)
  | .padded d, cs => ReadsPadded d cs
  | .items ds, cs => ∀ fuel rest, cs.length ≤ fuel →
    readItems (fuel + 2) (cs ++ ']' :: rest) = (ds, none, some rest)
  | .member key d, cs => ∃ before body gap value, cs = before ++ '\"' :: (body ++ '\"' :: (gap ++ ':' :: value)) ∧
    Space before ∧ (∀ rest, readText (body ++ '\"' :: rest) = (key, some rest)) ∧ Space gap ∧ ReadsPadded d value
  | .members ms, cs => ∀ fuel rest, cs.length ≤ fuel →
    readMembers (fuel + 2) (cs ++ '}' :: rest) = (ms, none, some rest)

/-- An item and the character behind it. -/
private theorem read_item (reads : ReadsPadded d cs) (enough : cs.length ≤ fuel) (closed : closes c = true)
    (solid : isSpace c = false) :
    readItems (fuel + 2) (cs ++ c :: rest) =
      if c = ',' then
        (d :: (readItems (fuel + 1) rest).1, (readItems (fuel + 1) rest).2.1, (readItems (fuel + 1) rest).2.2)
      else if c = ']' then ([d], none, some rest)
      else ([d], some (.of .malformed), none) := by
  have delimited : Delimited (c :: rest) := by simp [Delimited, begins, closed]
  obtain ⟨after, space, read⟩ := reads fuel (c :: rest) enough delimited
  have stop : skipSpace (after ++ c :: rest) = c :: rest := by rw [skip_gap space, skip_solid solid]
  rw [readItems, read]
  simp only [stop]

/-- A member and the character behind it. -/
theorem read_member (reads : Reads (.member key d) cs) (enough : cs.length ≤ fuel) (closed : closes c = true)
    (solid : isSpace c = false) :
    readMembers (fuel + 2) (cs ++ c :: rest) =
      if c = ',' then
        ((key, d) :: (readMembers (fuel + 1) rest).1, (readMembers (fuel + 1) rest).2.1,
          (readMembers (fuel + 1) rest).2.2)
      else if c = '}' then ([(key, d)], none, some rest)
      else ([(key, d)], some (.of .malformed), none) := by
  obtain ⟨before, body, gap, value, rfl, front, named, space, padded⟩ := reads
  have room : value.length ≤ fuel := by
    simp only [List.length_append, List.length_cons] at enough
    omega
  have delimited : Delimited (c :: rest) := by simp [Delimited, begins, closed]
  obtain ⟨after, back, read⟩ := padded fuel (c :: rest) room delimited
  have name (tail : List Char) : readName ('\"' :: (body ++ '\"' :: tail)) = (key, some tail) := by
    rw [readName, if_pos rfl, named]
  have colon (tail : List Char) : skipSpace (gap ++ ':' :: tail) = ':' :: tail := by
    rw [skip_gap space, skip_solid rfl]
  have stop : skipSpace (after ++ c :: rest) = c :: rest := by rw [skip_gap back, skip_solid solid]
  rw [List.append_assoc, read_members_gap front, List.cons_append, readMembers, skip_solid rfl]
  simp only [List.append_assoc, List.cons_append, name, colon, if_pos, read, stop]

private theorem read_array_items (writes : Writes (.items ds) cs) (reads : Reads (.items ds) cs)
    (enough : cs.length ≤ fuel) :
    readValue (fuel + 3) ('[' :: (cs ++ ']' :: rest)) = (.array ds none, some rest) := by
  obtain ⟨gap, c, more, rfl, space, solid, other⟩ := items_open writes
  have read := reads fuel rest enough
  rw [List.append_assoc, read_items_gap space, List.cons_append] at read
  rw [readValue, skip_solid rfl]
  dsimp only
  rw [if_pos rfl, List.append_assoc, skip_gap space, List.cons_append, skip_solid solid]
  dsimp only
  rw [if_neg other, read]

private theorem read_object_members (writes : Writes (.members ms) cs) (reads : Reads (.members ms) cs)
    (enough : cs.length ≤ fuel) :
    readValue (fuel + 3) ('{' :: (cs ++ '}' :: rest)) = (.object ms none, some rest) := by
  obtain ⟨gap, more, rfl, space⟩ := members_open writes
  have read := reads fuel rest enough
  rw [List.append_assoc, read_members_gap space, List.cons_append] at read
  rw [readValue, skip_solid rfl]
  dsimp only
  rw [if_neg (by decide), if_pos rfl, List.append_assoc, skip_gap space, List.cons_append, skip_solid rfl]
  dsimp only
  rw [if_neg (by decide), read]

private theorem read_numeral {t : NumeralText} (form : NumeralForm t cs) (delimited : Delimited rest) :
    readValue (fuel + 1) (cs ++ rest) = (numberDraft t, some rest) := by
  cases form with
  | @mk minus whole fraction exponent _ _ lead behind scaled =>
    have read : readNumber minus (whole ++ (fraction ++ (exponent ++ rest))) = _ :=
      read_number_form lead behind scaled delimited
    rw [List.append_assoc, List.append_assoc, List.append_assoc]
    cases minus with
    | true => exact (read_scalar_value rfl (by decide) (by decide)).trans read
    | false =>
      obtain ⟨c, more, rfl⟩ := List.exists_cons_of_ne_nil lead.1.1
      exact (read_digit_scalar (lead.1.2 c List.mem_cons_self)).trans read

/-- A text is read as what it stands for. -/
theorem writes_reads {stretch : Stretch} (writes : Writes stretch cs) : Reads stretch cs := by
  induction writes with
  | null | yes | no =>
    intro fuel rest _ _
    rfl
  | number form =>
    intro fuel rest _ delimited
    exact read_numeral form delimited
  | string form =>
    intro fuel rest _ _
    rw [List.cons_append, List.append_assoc, read_scalar_value rfl (by decide) (by decide)]
    change readString _ = _
    rw [readString, List.singleton_append, read_text_units form]
  | emptyArray space | emptyObject space =>
    intro fuel rest _ _
    simp [readValue, skip_solid, isSpace, skip_gap space]
  | @array ds cs inside ih =>
    intro fuel rest enough _
    simp only [List.length_cons, List.length_append] at enough
    obtain ⟨left, rfl⟩ := Nat.exists_eq_add_of_le' (show 2 ≤ fuel by omega)
    rw [List.cons_append, List.append_assoc]
    exact read_array_items inside ih (by omega)
  | @object ms cs inside ih =>
    intro fuel rest enough _
    simp only [List.length_cons, List.length_append] at enough
    obtain ⟨left, rfl⟩ := Nat.exists_eq_add_of_le' (show 2 ≤ fuel by omega)
    rw [List.cons_append, List.append_assoc]
    exact read_object_members inside ih (by omega)
  | @padded d before cs after front back value ih =>
    intro fuel rest enough delimited
    refine ⟨after, back, ?_⟩
    simp only [List.length_append] at enough
    rw [List.append_assoc, read_value_gap front, List.append_assoc]
    exact ih fuel (after ++ rest) (by omega) (space_delimited back delimited)
  | lastItem value ih =>
    intro fuel rest enough
    rw [read_item ih enough rfl rfl, if_neg (by decide), if_pos rfl]
  | @item d ds cs more value others first ih =>
    intro fuel rest enough
    simp only [List.length_append, List.length_cons] at enough
    obtain ⟨left, rfl⟩ := Nat.exists_eq_add_of_le' (show 1 ≤ fuel by omega)
    rw [List.append_assoc, List.cons_append, read_item first (by omega) rfl rfl, if_pos rfl, ih left rest (by omega)]
  | member front named space value ih =>
    exact ⟨_, _, _, _, rfl, front, fun rest => read_text_units named, space, ih⟩
  | lastMember first ih =>
    intro fuel rest enough
    rw [read_member ih enough rfl rfl, if_neg (by decide), if_pos rfl]
  | @nextMember key d ms cs more first others one ih =>
    intro fuel rest enough
    simp only [List.length_append, List.length_cons] at enough
    obtain ⟨left, rfl⟩ := Nat.exists_eq_add_of_le' (show 1 ≤ fuel by omega)
    rw [List.append_assoc, List.cons_append, read_member one (by omega) rfl rfl, if_pos rfl, ih left rest (by omega)]

/-- What a stretch stands for holds no defect, so whoever passes over it meets none. -/
def Flawless : Stretch → Prop
  | .value d | .padded d | .member _ d => d.skipFault = none
  | .items ds => Draft.skipItems ds = none
  | .members ms => Draft.skipMembers ms = none

theorem writes_flawless {stretch : Stretch} (writes : Writes stretch cs) : Flawless stretch := by
  induction writes with
  | null | yes | no | string | emptyArray | emptyObject => rfl
  | number form =>
    simp only [Flawless, numberDraft]
    split <;> rfl
  | array _ ih => simpa [Flawless, Draft.skipFault] using ih
  | object _ ih => simpa [Flawless, Draft.skipFault] using ih
  | padded _ _ _ ih => exact ih
  | lastItem _ ih => simpa [Flawless, Draft.skipItems] using ih
  | item _ _ first ih => simpa [Flawless, Draft.skipItems] using ⟨first, ih⟩
  | member _ _ _ _ ih => exact ih
  | lastMember first ih =>
    cases first
    simpa [Flawless, Draft.skipMembers] using ih
  | nextMember first _ one ih =>
    cases first
    simpa [Flawless, Draft.skipMembers] using ⟨one, ih⟩

/-- Whatever is taken out of a text is taken out of the value that it stands for. -/
theorem decode_text {α : Type} {text : String} (written : IsText d text) (take : Draft → Except Json.Fault α) :
    decode take text = take d := by
  obtain ⟨after, space, read⟩ := writes_reads written (2 * text.toList.length + 1) [] (by omega) rfl
  rw [List.append_nil, List.append_nil] at read
  rw [decode, Json.read, read]
  dsimp only
  rw [skip_all space]
  cases take d <;> rfl

end Values

end Tabscript.JsonTexts
