import Tabscript.Proofs.TokenStream

/-! How tokens are written, and that they are read back.

The forms below describe what a user may type for a token: a name and a number as
their grammar has them, a text between quotes with its escapes. They do not mention
the reader. A form that is followed by something that cannot continue it is read as
its token, and nothing behind it is touched. -/
namespace Tabscript.WrittenTokens
open Token TokenStream

def IsName (cs : List Char) : Prop :=
  ∃ first more, cs = first :: more ∧ startsName first = true ∧ ∀ c ∈ more, isNameChar c = true

/-- Digits only, and at least one of them. -/
def IsDigits (cs : List Char) : Prop :=
  cs ≠ [] ∧ ∀ c ∈ cs, c.isDigit = true

def OptionalSign (cs : List Char) : Prop :=
  cs = [] ∨ ∃ sign, isSign sign = true ∧ cs = [sign]

/-- What a number has before its exponent, without its sign. -/
inductive Mantissa : List Char → Prop where
  | whole {digits : List Char} (given : IsDigits digits) : Mantissa digits
  | pointed {digits fraction : List Char} (given : IsDigits digits)
    (behind : ∀ c ∈ fraction, c.isDigit = true) : Mantissa (digits ++ '.' :: fraction)
  | fraction {digits : List Char} (given : IsDigits digits) : Mantissa ('.' :: digits)

inductive Exponent : List Char → Prop where
  | none : Exponent []
  | some {mark : Char} {sign digits : List Char} (marks : mark = 'e' ∨ mark = 'E')
    (signed : OptionalSign sign) (given : IsDigits digits) : Exponent (mark :: (sign ++ digits))

theorem unsigned_exponent {mark : Char} {digits : List Char} (marks : mark = 'e' ∨ mark = 'E')
    (given : IsDigits digits) : Exponent (mark :: digits) :=
  .some marks (.inl rfl) given

/-- The grammar of numbers: a sign if there is one, a mantissa, and an exponent if there is one. -/
def IsNumber (cs : List Char) : Prop :=
  ∃ sign mantissa exponent, cs = sign ++ mantissa ++ exponent ∧
    OptionalSign sign ∧ Mantissa mantissa ∧ Exponent exponent

/-- The ways to write one character between quotes. Only the quote and the
backslash have to be escaped; a line feed and a tab may be. -/
inductive CharForm : Char → List Char → Prop where
  | quote : CharForm '\"' ['\\', '\"']
  | backslash : CharForm '\\' ['\\', '\\']
  | feed : CharForm '\n' ['\\', 'n']
  | tab : CharForm '\t' ['\\', 't']
  | raw {c : Char} (unquoted : c ≠ '\"') (unescaped : c ≠ '\\') : CharForm c [c]

inductive TextForm : List Char → List Char → Prop where
  | nil : TextForm [] []
  | cons {c : Char} {form more forms : List Char} (head : CharForm c form) (tail : TextForm more forms) :
    TextForm (c :: more) (form ++ forms)

/-- The ways to write a token. The end of a line is not written. -/
inductive Form : Token → List Char → Prop where
  | ident (text : String) : Form (.ident text) text.toList
  | number (text : String) : Form (.number text) text.toList
  | str {text : String} {body : List Char} (inside : TextForm text.toList body) :
    Form (.str text) ('\"' :: (body ++ ['\"']))
  | lparen : Form .lparen ['(']
  | rparen : Form .rparen [')']
  | comma : Form .comma [',']
  | semicolon : Form .semicolon [';']

/-- A token whose text, if it has one, is of its kind. -/
def Proper : Token → Prop
  | .ident text => IsName text.toList
  | .number text => IsNumber text.toList
  | _ => True

/-- A character that could continue a name or a number. -/
def continues (c : Char) : Bool :=
  isNameChar c || c == '.'

def Blank (gap : List Char) : Prop :=
  ∀ c ∈ gap, Text.isBlank c = true

instance : DecidablePred Blank :=
  fun gap => List.decidableBAll (fun c => Text.isBlank c = true) gap

section Characters

variable {c : Char}

private theorem mantissa_continues (mantissa : isMantissa c = true) : continues c = true := by
  simp only [isMantissa, Bool.or_eq_true] at mantissa
  rcases mantissa with digit | point
  · simp [continues, isNameChar, Char.isAlphanum, digit]
  · simp [continues, point]

private theorem starts_name_continues (starts : startsName c = true) : continues c = true := by
  simp only [startsName, Bool.or_eq_true] at starts
  rcases starts with letter | underscore
  · simp [continues, isNameChar, Char.isAlphanum, letter]
  · simp [continues, isNameChar, underscore]

private theorem letter_code (letter : c.isAlpha = true) :
    (65 ≤ c.toNat ∧ c.toNat ≤ 90) ∨ (97 ≤ c.toNat ∧ c.toNat ≤ 122) := by
  delta Char.isAlpha Char.isUpper Char.isLower at letter
  simp only [Bool.or_eq_true, Bool.and_eq_true, decide_eq_true_eq] at letter
  rcases letter with upper | lower
  · exact .inl ⟨upper.1, upper.2⟩
  · exact .inr ⟨lower.1, lower.2⟩

private theorem name_char_code (name : isNameChar c = true) :
    (48 ≤ c.toNat ∧ c.toNat ≤ 57) ∨ (65 ≤ c.toNat ∧ c.toNat ≤ 90) ∨ c.toNat = 95 ∨
      (97 ≤ c.toNat ∧ c.toNat ≤ 122) := by
  simp only [isNameChar, Char.isAlphanum, Char.isDigit, Bool.or_eq_true, Bool.and_eq_true, decide_eq_true_eq,
    beq_iff_eq] at name
  rcases name with (letter | digit) | rfl
  · rcases letter_code letter with upper | lower
    · exact .inr (.inl upper)
    · exact .inr (.inr (.inr lower))
  · exact .inl ⟨digit.1, digit.2⟩
  · exact .inr (.inr (.inl rfl))

private theorem blank_code (blank : Text.isBlank c = true) :
    c.toNat ≤ 32 ∨ 133 ≤ c.toNat := by
  simp only [Text.isBlank, Bool.or_eq_true, Bool.and_eq_true, decide_eq_true_eq, beq_iff_eq] at blank
  omega

/-- Neither a blank nor a sign of the grammar can continue a name or a number. -/
theorem blank_continues (blank : Text.isBlank c = true) : continues c = false := by
  apply Bool.eq_false_iff.mpr
  intro more
  have code := blank_code blank
  simp only [continues, Bool.or_eq_true, beq_iff_eq] at more
  rcases more with name | rfl
  · have range := name_char_code name
    omega
  · revert blank
    decide

/-- A character that begins a name or a number is neither blank nor a sign of the grammar. -/
structure Leads (c : Char) : Prop where
  unblank : Text.isBlank c = false
  uncommented : c ≠ '#'
  unsigned : c ∉ ['(', ')', ',', ';', '\"']

private theorem leads_of_code (inside : 43 ≤ c.toNat) (outside : c.toNat ≤ 122) (comma : c.toNat ≠ 44)
    (semicolon : c.toNat ≠ 59) : Leads c where
  unblank := by
    apply Bool.eq_false_iff.mpr
    intro blank
    have code := blank_code blank
    omega
  uncommented := by
    rintro rfl
    revert inside
    decide
  unsigned := by
    simp only [List.mem_cons, List.not_mem_nil, or_false]
    rintro (rfl | rfl | rfl | rfl | rfl)
    · revert inside; decide
    · revert inside; decide
    · exact comma rfl
    · exact semicolon rfl
    · revert inside; decide

theorem starts_name_leads (starts : startsName c = true) : Leads c := by
  have name : isNameChar c = true := by
    simp only [startsName, Bool.or_eq_true] at starts
    rcases starts with letter | underscore
    · simp [isNameChar, Char.isAlphanum, letter]
    · simp [isNameChar, underscore]
  have range := name_char_code name
  exact leads_of_code (by omega) (by omega) (by omega) (by omega)

theorem starts_number_leads (starts : startsNumber c = true) : Leads c := by
  simp only [startsNumber, isSign, Bool.or_eq_true, beq_iff_eq] at starts
  rcases starts with (digit | (rfl | rfl)) | rfl
  · have name : isNameChar c = true := by simp [isNameChar, Char.isAlphanum, digit]
    have range := name_char_code name
    exact leads_of_code (by omega) (by omega) (by omega) (by omega)
  all_goals exact leads_of_code (by decide) (by decide) (by decide) (by decide)

/-- No character begins both a name and a number. -/
theorem starts_name_unnumbered (starts : startsName c = true) : startsNumber c = false := by
  apply Bool.eq_false_iff.mpr
  intro number
  simp only [startsName, Bool.or_eq_true, beq_iff_eq] at starts
  simp only [startsNumber, isSign, Char.isDigit, Bool.or_eq_true, Bool.and_eq_true,
    decide_eq_true_eq, beq_iff_eq] at number
  have letter : 65 ≤ c.toNat := by
    rcases starts with alpha | rfl
    · have range := letter_code alpha
      omega
    · decide
  rcases number with (digit | (rfl | rfl)) | rfl
  · have small : c.toNat ≤ 57 := digit.2
    omega
  all_goals
    revert letter
    decide

end Characters

section Runs

variable {kind : Char → Bool} {body rest : List Char}

theorem take_run (inside : ∀ c ∈ body, kind c = true) (stop : begins kind rest = false) :
    (body ++ rest).takeWhile kind = body := by
  rw [List.takeWhile_append_of_pos inside]
  cases rest with
  | nil => simp
  | cons c more =>
    have other : kind c = false := stop
    simp [other]

theorem drop_run (inside : ∀ c ∈ body, kind c = true) (stop : begins kind rest = false) :
    (body ++ rest).dropWhile kind = rest := by
  rw [List.dropWhile_append_of_pos inside]
  cases rest with
  | nil => rfl
  | cons c more =>
    have other : kind c = false := stop
    simp [other]

theorem begins_drop_while (kind : Char → Bool) (cs : List Char) : begins kind (cs.dropWhile kind) = false := by
  induction cs with
  | nil => rfl
  | cons c more ih =>
    rw [List.dropWhile_cons]
    split
    · exact ih
    · rename_i other
      exact Bool.eq_false_iff.mpr other

/-- What cannot begin with any continuing character cannot begin with one of a kind of them. -/
private theorem begins_narrow (within : ∀ c, kind c = true → continues c = true)
    (stop : begins continues rest = false) : begins kind rest = false := by
  cases rest with
  | nil => rfl
  | cons c more =>
    apply Bool.eq_false_iff.mpr
    intro starts
    have other : continues c = false := stop
    rw [within c starts] at other
    cases other

end Runs

section Texts

variable {text form : List Char}

theorem scan_text_form (held rest : List Char) (written : TextForm text form) :
    scanText held (form ++ '\"' :: rest) = .ok (String.ofList (held.reverse ++ text), rest) := by
  induction written generalizing held with
  | nil =>
    rw [List.append_nil, List.nil_append, scanText.eq_def]
    rfl
  | @cons c form more forms head tail ih =>
    rw [List.append_assoc]
    cases head with
    | raw unquoted unescaped =>
      rw [List.singleton_append, scanText.eq_def]
      simp [unquoted, unescaped, ih]
    | quote | backslash | feed | tab =>
      simp [scanText, unescape, ih]

end Texts

section Numbers

variable {first : Char} {text sign mantissa exponent digits rest : List Char}

theorem digit_ne_point {c : Char} (digit : c.isDigit = true) : c ≠ '.' := by
  rintro rfl
  revert digit
  decide

private theorem digits_pointless (digits : ∀ c ∈ text, c.isDigit = true) : text.count '.' = 0 :=
  List.count_eq_zero.mpr fun member => digit_ne_point (digits '.' member) rfl

private theorem sign_pointless (signed : OptionalSign sign) : sign.count '.' = 0 := by
  rcases signed with rfl | ⟨c, isSign, rfl⟩
  · rfl
  · apply List.count_eq_zero.mpr
    intro member
    rw [← List.mem_singleton.mp member] at isSign
    revert isSign
    decide

theorem mantissa_point (shape : Mantissa mantissa) : mantissa.count '.' ≤ 1 := by
  cases shape with
  | whole given => simp [digits_pointless given.2]
  | pointed given behind => simp [digits_pointless given.2, digits_pointless behind]
  | fraction given => simp [digits_pointless given.2]

theorem mantissa_digit (shape : Mantissa mantissa) : ∃ c ∈ mantissa, c.isDigit = true := by
  cases shape with
  | whole given | pointed given _ | fraction given =>
    obtain ⟨c, member⟩ := List.exists_mem_of_ne_nil _ given.1
    exact ⟨c, by simp [member], given.2 c member⟩

theorem mantissa_alphabet (shape : Mantissa mantissa) : ∀ c ∈ mantissa, isMantissa c = true := by
  intro c member
  cases shape with
  | whole given => simp [isMantissa, given.2 c member]
  | pointed given behind =>
    simp only [List.mem_append, List.mem_cons] at member
    rcases member with front | rfl | back
    · simp [isMantissa, given.2 c front]
    · rfl
    · simp [isMantissa, behind c back]
  | fraction given =>
    rcases List.mem_cons.mp member with rfl | back
    · rfl
    · simp [isMantissa, given.2 c back]

private theorem exponent_pointless (shape : Exponent exponent) : exponent.count '.' = 0 := by
  cases shape with
  | none => rfl
  | some marks signed given =>
    have unmarked : ∀ mark : Char, mark = 'e' ∨ mark = 'E' → mark ≠ '.' := by
      rintro _ (rfl | rfl) <;> decide
    rw [List.count_cons_of_ne (unmarked _ marks), List.count_append, sign_pointless signed,
      digits_pointless given.2]

/-- A number is accepted where nothing continues it. -/
private theorem finish_number_form (point : text.count '.' ≤ 1) (digit : ∃ c ∈ text, c.isDigit = true)
    (apart : begins continues rest = false) : finishNumber text rest = .ok (String.ofList text, rest) := by
  have formed : (text.count '.' > 1 || !text.any Char.isDigit) = false := by
    have some : text.any Char.isDigit = true := List.any_eq_true.mpr digit
    simp [some, point]
  rw [finishNumber.eq_def, formed]
  cases rest with
  | nil => rfl
  | cons c more =>
    have loose : startsName c = false :=
      begins_narrow (fun _ => starts_name_continues) apart
    simp [loose]

private theorem split_sign_form (signed : OptionalSign sign) (given : IsDigits digits) :
    splitSign (sign ++ (digits ++ rest)) = (sign, digits ++ rest) := by
  obtain ⟨some, all⟩ := given
  cases digits with
  | nil => exact absurd rfl some
  | cons c more =>
    have unsigned : isSign c = false := by
      have digit := all c (by simp)
      apply Bool.eq_false_iff.mpr
      intro sign
      simp only [isSign, Bool.or_eq_true, beq_iff_eq] at sign
      rcases sign with rfl | rfl
      · revert digit; decide
      · revert digit; decide
    rcases signed with rfl | ⟨c, isSign, rfl⟩
    · simp [splitSign, unsigned]
    · simp [splitSign, isSign]

theorem scan_exponent_form (shape : Exponent exponent) (point : mantissa.count '.' ≤ 1)
    (digit : ∃ c ∈ mantissa ++ exponent, c.isDigit = true) (apart : begins continues rest = false) :
    scanExponent mantissa (exponent ++ rest) = .ok (String.ofList (mantissa ++ exponent), rest) := by
  have whole : finishNumber (mantissa ++ exponent) rest =
      .ok (String.ofList (mantissa ++ exponent), rest) := by
    apply finish_number_form _ digit apart
    rw [List.count_append, exponent_pointless shape]
    exact point
  cases shape with
  | none =>
    rw [List.append_nil] at whole ⊢
    rw [List.nil_append]
    cases rest with
    | nil => exact whole
    | cons next more =>
      have unmarked : ¬ (next = 'e' ∨ next = 'E') := by
        rintro (rfl | rfl)
        · revert apart; simp [begins]; decide
        · revert apart; simp [begins]; decide
      rw [scanExponent, if_neg unmarked, whole]
  | @some mark sign digits marks signed given =>
    have stop : begins Char.isDigit rest = false :=
      begins_narrow (fun c digit => mantissa_continues (by simp [isMantissa, digit])) apart
    have taken := take_run given.2 stop
    have dropped := drop_run given.2 stop
    have some : digits.isEmpty = false := by simp [given.1]
    rw [List.cons_append, List.append_assoc, scanExponent, if_pos marks, split_sign_form signed given]
    simp only [taken, dropped, some]
    exact whole

theorem mantissa_stops (shape : Exponent exponent) (apart : begins continues rest = false) :
    begins isMantissa (exponent ++ rest) = false := by
  cases shape with
  | none => exact begins_narrow (fun _ => mantissa_continues) apart
  | some marks signed given => rcases marks with rfl | rfl <;> rfl

theorem mantissa_unsigned {c : Char} (mantissa : isMantissa c = true) : isSign c = false := by
  apply Bool.eq_false_iff.mpr
  intro sign
  simp only [isSign, Bool.or_eq_true, beq_iff_eq] at sign
  rcases sign with rfl | rfl
  · revert mantissa; decide
  · revert mantissa; decide

/-- Parts that are put together are scanned as one number. The scanner asks for a digit, but
not for one in the mantissa. -/
theorem scan_number_spelled {more : List Char} (split : first :: more = sign ++ (mantissa ++ exponent))
    (signed : OptionalSign sign) (alphabet : ∀ c ∈ mantissa, isMantissa c = true) (given : mantissa ≠ [])
    (point : mantissa.count '.' ≤ 1) (tail : Exponent exponent)
    (digit : ∃ c ∈ mantissa ++ exponent, c.isDigit = true) (apart : begins continues rest = false) :
    startsNumber first = true ∧
      scanNumber first (more ++ rest) = .ok (String.ofList (first :: more), rest) := by
  have stop := mantissa_stops tail apart
  obtain ⟨head, front, rfl⟩ := List.exists_cons_of_ne_nil given
  have leading := alphabet head (by simp)
  rcases signed with rfl | ⟨mark, isSign, rfl⟩
  · -- Without a sign the mantissa has the first character.
    simp only [List.nil_append, List.cons_append, List.cons.injEq] at split
    obtain ⟨rfl, rfl⟩ := split
    refine ⟨?_, ?_⟩
    · simp only [isMantissa, Bool.or_eq_true] at leading
      rcases leading with isDigit | point
      · simp [startsNumber, isDigit]
      · simp [startsNumber, point]
    · have rest_front : ∀ c ∈ front, isMantissa c = true := fun c member => alphabet c (by simp [member])
      rw [List.append_assoc, scanNumber, mantissa_unsigned leading, take_run rest_front stop,
        drop_run rest_front stop]
      exact scan_exponent_form tail point digit apart
  · rw [List.singleton_append, List.cons.injEq] at split
    obtain ⟨rfl, rfl⟩ := split
    have opens : begins isMantissa (head :: front ++ (exponent ++ rest)) = true := leading
    refine ⟨by simp [startsNumber, isSign], ?_⟩
    rw [List.append_assoc, scanNumber, opens, take_run alphabet stop, drop_run alphabet stop]
    have unpointed : (first :: head :: front).count '.' ≤ 1 := by
      have none := sign_pointless (.inr ⟨first, isSign, rfl⟩)
      rw [List.count_cons, ← List.count_singleton, none]
      exact point
    obtain ⟨c, inside, isDigit⟩ := digit
    simpa [isSign] using scan_exponent_form tail unpointed ⟨c, List.mem_cons_of_mem _ inside, isDigit⟩ apart

theorem scan_number_form {more : List Char} (number : IsNumber (first :: more))
    (apart : begins continues rest = false) :
    startsNumber first = true ∧
      scanNumber first (more ++ rest) = .ok (String.ofList (first :: more), rest) := by
  obtain ⟨sign, mantissa, exponent, split, signed, shape, tail⟩ := number
  obtain ⟨c, inside, digit⟩ := mantissa_digit shape
  rw [List.append_assoc] at split
  exact scan_number_spelled split signed (mantissa_alphabet shape) (List.ne_nil_of_mem inside) (mantissa_point shape)
    tail ⟨c, List.mem_append_left _ inside, digit⟩ apart

end Numbers

/-- What must not stand directly behind a token, lest it be read as part of it. -/
def Apart : Token → List Char → Prop
  | .ident _, rest => begins continues rest = false
  | .number _, rest => begins continues rest = false
  | _, _ => True

section Tokens

variable {c : Char} {gap form rest : List Char} {t : Token}

theorem next_gap (blank : Blank gap) (line : List Char) : next (gap ++ line) = next line := by
  rw [next, next, List.dropWhile_append_of_pos blank]

private theorem next_lead (leads : Leads c) : next (c :: rest) = scanToken c rest := by
  have stays : (c :: rest).dropWhile Text.isBlank = c :: rest := by simp [leads.unblank]
  rw [next, stays]
  exact if_neg leads.uncommented

private theorem scan_lead (leads : Leads c) :
    scanToken c rest =
      if startsNumber c then (scanNumber c rest).map fun (text, more) => (.number text, more)
      else if startsName c then
        .ok (.ident (String.ofList (c :: rest.takeWhile isNameChar)), rest.dropWhile isNameChar)
      else .error (.strayCharacter c) := by
  have unsigned := leads.unsigned
  simp only [List.mem_cons, List.not_mem_nil, or_false, not_or] at unsigned
  obtain ⟨opening, closing, comma, semicolon, quote⟩ := unsigned
  rw [scanToken, if_neg opening, if_neg closing, if_neg comma, if_neg semicolon, if_neg quote]

private theorem next_name {text : String} (name : IsName text.toList) (apart : begins continues rest = false) :
    next (text.toList ++ rest) = .ok (.ident text, rest) := by
  obtain ⟨first, more, spelled, starts, inside⟩ := name
  have stop : begins isNameChar rest = false :=
    begins_narrow (fun c name => by simp [continues, name]) apart
  rw [spelled, List.cons_append, next_lead (starts_name_leads starts), scan_lead (starts_name_leads starts),
    starts_name_unnumbered starts, starts, take_run inside stop, drop_run inside stop, ← spelled]
  simp

theorem next_scanned {cs : List Char} {text : String} (starts : startsNumber c = true)
    (scanned : scanNumber c cs = .ok (text, rest)) : next (c :: cs) = .ok (.number text, rest) := by
  rw [next_lead (starts_number_leads starts), scan_lead (starts_number_leads starts), starts, scanned]
  rfl

theorem next_text {cs : List Char} {text : String} (scanned : scanText [] cs = .ok (text, rest)) :
    next ('\"' :: cs) = .ok (.str text, rest) := by
  have opens : next ('\"' :: cs) = scanToken '\"' cs := rfl
  rw [opens, scanToken]
  simp [scanned, Except.map]

private theorem next_number_form {text : String} (number : IsNumber text.toList)
    (apart : begins continues rest = false) : next (text.toList ++ rest) = .ok (.number text, rest) := by
  cases spelled : text.toList with
  | nil =>
    obtain ⟨sign, mantissa, exponent, split, _, shape, _⟩ := number
    obtain ⟨c, member, _⟩ := mantissa_digit shape
    rw [spelled] at split
    simp [(List.append_eq_nil_iff.mp (List.append_eq_nil_iff.mp split.symm).1).2] at member
  | cons first more =>
    rw [spelled] at number
    obtain ⟨starts, scanned⟩ := scan_number_form number apart
    rw [← spelled, String.ofList_toList] at scanned
    exact next_scanned starts scanned

/-- A token is read off the place where it is written, whatever blanks stand
before it and whatever cannot continue it stands behind. -/
theorem next_form (blank : Blank gap) (written : Form t form) (proper : Proper t) (apart : Apart t rest) :
    next (gap ++ (form ++ rest)) = .ok (t, rest) := by
  rw [next_gap blank]
  cases written with
  | ident text => exact next_name proper apart
  | number text => exact next_number_form proper apart
  | @str text body inside =>
    have scanned := scan_text_form [] rest inside
    rw [List.reverse_nil, List.nil_append, String.ofList_toList] at scanned
    rw [List.cons_append, List.append_assoc, List.singleton_append]
    exact next_text scanned
  | lparen | rparen | comma | semicolon => rfl

end Tokens

end Tabscript.WrittenTokens
