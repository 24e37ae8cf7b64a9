import Tabscript.Text.Blank
import Tabscript.Token

/-!
Reading tokens off a line. `next` reads one token and gives the characters after it; `items` is the whole sequence,
which ends with the first fault or with the end of the line, and `lex` splits it into the tokens and the fault. Blanks
separate tokens, and a number sign outside a text ends the line.
-/
namespace Tabscript.Token

/-- A sign before a number or an exponent. -/
def isSign (c : Char) : Bool :=
  c == '+' || c == '-'

/-- A character of a number before its exponent. -/
def isMantissa (c : Char) : Bool :=
  c.isDigit || c == '.'

def startsNumber (c : Char) : Bool :=
  c.isDigit || isSign c || c == '.'

def startsName (c : Char) : Bool :=
  c.isAlpha || c == '_'

/-- A character inside a name. -/
def isNameChar (c : Char) : Bool :=
  c.isAlphanum || c == '_'

/-- Whether the rest of a line begins with a character of the kind. -/
def begins (kind : Char → Bool) : List Char → Bool
  | [] => false
  | c :: _ => kind c

/-- What a backslash and the character after it stand for; a pair that is no escape stands for itself. -/
def unescape (c : Char) : List Char :=
  if c = 'n' then ['\n']
  else if c = 't' then ['\t']
  else if c = '\"' then ['\"']
  else if c = '\\' then ['\\']
  else ['\\', c]

/-- Reads a text up to its closing quote; `held` is the text read so far, reversed. -/
def scanText (held : List Char) : List Char → Except LexFault (String × List Char)
  | [] => .error .openText
  | c :: rest =>
    if c = '\"' then .ok (String.ofList held.reverse, rest)
    else if c = '\\' then
      match rest with
      | [] => .error .openText
      | e :: more => scanText ((unescape e).reverse ++ held) more
    else scanText (c :: held) rest

/-- Accepts the text of a number and what follows it, if the text is a number and ends there. -/
def finishNumber (text rest : List Char) : Except LexFault (String × List Char) :=
  if text.count '.' > 1 || !text.any Char.isDigit then .error (.malformedNumber (String.ofList text))
  else match rest with
    | [] => .ok (String.ofList text, [])
    | c :: more =>
      if startsName c then .error (.gluedNumber c (String.ofList text)) else .ok (String.ofList text, c :: more)

/-- The sign that a list of characters begins with, if any, and the rest. -/
def splitSign : List Char → List Char × List Char
  | [] => ([], [])
  | c :: rest => if isSign c then ([c], rest) else ([], c :: rest)

/-- Reads the exponent after a mantissa, if there is one. -/
def scanExponent (mantissa : List Char) : List Char → Except LexFault (String × List Char)
  | [] => finishNumber mantissa []
  | e :: rest =>
    if e = 'e' ∨ e = 'E' then
      let (sign, more) := splitSign rest
      let digits := more.takeWhile Char.isDigit
      let text := mantissa ++ e :: (sign ++ digits)
      if digits.isEmpty then .error (.emptyExponent (String.ofList text))
      else finishNumber text (more.dropWhile Char.isDigit)
    else finishNumber mantissa (e :: rest)

/-- Reads a number that begins with the given character. -/
def scanNumber (first : Char) (rest : List Char) : Except LexFault (String × List Char) :=
  if isSign first && !begins isMantissa rest then .error (.bareSign first)
  else scanExponent (first :: rest.takeWhile isMantissa) (rest.dropWhile isMantissa)

/-- Reads one token that begins with the given character, which is not blank and no number sign. -/
def scanToken (c : Char) (rest : List Char) : Except LexFault (Token × List Char) :=
  if c = '(' then .ok (.lparen, rest)
  else if c = ')' then .ok (.rparen, rest)
  else if c = ',' then .ok (.comma, rest)
  else if c = ';' then .ok (.semicolon, rest)
  else if c = '\"' then (scanText [] rest).map fun (text, more) => (.str text, more)
  else if startsNumber c then (scanNumber c rest).map fun (text, more) => (.number text, more)
  else if startsName c then
    .ok (.ident (String.ofList (c :: rest.takeWhile isNameChar)), rest.dropWhile isNameChar)
  else .error (.strayCharacter c)

/-- Reads the next token and gives the characters after it. -/
def next (line : List Char) : Except LexFault (Token × List Char) :=
  match line.dropWhile Text.isBlank with
  | [] => .ok (.eof, [])
  | c :: rest => if c = '#' then .ok (.eof, []) else scanToken c rest

theorem scanText_length {held cs : List Char} {text : String} {rest : List Char}
    (read : scanText held cs = .ok (text, rest)) : rest.length < cs.length := by
  fun_induction scanText held cs with
  | case1 => cases read
  | case2 held more => cases read; simp
  | case3 => cases read
  | case4 held _ e more ih => have := ih read; simp only [List.length_cons]; omega
  | case5 held c more _ _ ih => have := ih read; simp only [List.length_cons]; omega

theorem finishNumber_rest {text rest rest' : List Char} {read : String}
    (done : finishNumber text rest = .ok (read, rest')) : rest' = rest := by
  unfold finishNumber at done
  split at done
  · cases done
  · split at done
    · cases done; rfl
    · split at done
      · cases done
      · cases done; rfl

theorem splitSign_length (cs : List Char) : (splitSign cs).2.length ≤ cs.length := by
  unfold splitSign
  split
  · simp
  · split <;> simp

theorem length_dropWhile_le (p : Char → Bool) (cs : List Char) : (cs.dropWhile p).length ≤ cs.length :=
  (List.dropWhile_sublist p).length_le

theorem scanExponent_length {mantissa cs rest : List Char} {text : String}
    (read : scanExponent mantissa cs = .ok (text, rest)) : rest.length ≤ cs.length := by
  unfold scanExponent at read
  split at read
  · exact Nat.le_of_eq (congrArg List.length (finishNumber_rest read))
  · rename_i e more
    split at read
    · dsimp only at read
      split at read
      · cases read
      · rw [finishNumber_rest read]
        have digits := length_dropWhile_le Char.isDigit (splitSign more).2
        have sign := splitSign_length more
        simp only [List.length_cons]
        omega
    · exact Nat.le_of_eq (congrArg List.length (finishNumber_rest read))

theorem scanNumber_length {first : Char} {cs rest : List Char} {text : String}
    (read : scanNumber first cs = .ok (text, rest)) : rest.length ≤ cs.length := by
  unfold scanNumber at read
  split at read
  · cases read
  · exact Nat.le_trans (scanExponent_length read) (length_dropWhile_le _ _)

theorem scanToken_length {c : Char} {cs rest : List Char} {t : Token}
    (read : scanToken c cs = .ok (t, rest)) : rest.length ≤ cs.length := by
  unfold scanToken at read
  split at read
  · cases read; exact Nat.le_refl _
  split at read
  · cases read; exact Nat.le_refl _
  split at read
  · cases read; exact Nat.le_refl _
  split at read
  · cases read; exact Nat.le_refl _
  split at read
  · cases inner : scanText [] cs with
    | error f => rw [inner] at read; cases read
    | ok p =>
      rw [inner] at read
      cases read
      exact Nat.le_of_lt (scanText_length inner)
  split at read
  · cases inner : scanNumber c cs with
    | error f => rw [inner] at read; cases read
    | ok p =>
      rw [inner] at read
      cases read
      exact scanNumber_length inner
  split at read
  · cases read; exact length_dropWhile_le _ _
  · cases read

/-- Every token but the end of the line takes a character off it. -/
theorem next_length {line rest : List Char} {t : Token} (read : next line = .ok (t, rest))
    (inside : t ≠ .eof) : rest.length < line.length := by
  unfold next at read
  split at read
  · cases read; exact absurd rfl inside
  · rename_i c more split
    split at read
    · cases read; exact absurd rfl inside
    · have skipped := length_dropWhile_le Text.isBlank line
      have token := scanToken_length read
      rw [split, List.length_cons] at skipped
      omega

/-- The tokens of a line in order, up to and with the first fault or the end of the line. -/
def items (line : List Char) : List (Except LexFault Token) :=
  match _h : next line with
  | .error f => [.error f]
  | .ok (t, rest) => if _inside : t = .eof then [.ok .eof] else .ok t :: items rest
termination_by line.length
decreasing_by exact next_length _h _inside

/-- Splits a sequence of items at its fault. -/
def gather : List (Except LexFault Token) → List Token × Option LexFault
  | [] => ([], none)
  | .error f :: _ => ([], some f)
  | .ok t :: rest =>
    let (ts, fault) := gather rest
    (t :: ts, fault)

/-- The tokens of a line, and the fault that stopped the reading, if one did. -/
def lex (line : String) : List Token × Option LexFault :=
  gather (items line.toList)

end Tabscript.Token
