import Mathlib.Data.List.TakeWhile
import Tabscript.Token.Lexer

/-! What the items of a line look like as a whole. Tokens stand in front, and
exactly one verdict closes the sequence: the end of the line or the first
fault. The reader of calls relies on the closing verdict, and the generated
program on the alphabet that the texts of numbers are written in. -/
namespace Tabscript.TokenStream
open Token

variable {line rest : List Char} {t : Token} {f : LexFault}

/-- The items of a line from its first one. -/
theorem items_step (line : List Char) :
    items line = match next line with
      | .error f => [.error f]
      | .ok (t, rest) => if t = .eof then [.ok .eof] else .ok t :: items rest := by
  rw [items]
  split
  · rename_i read
    rw [read]
  · rename_i read
    rw [read]
    simp only [dite_eq_ite]

@[simp] theorem items_fault (read : next line = .error f) : items line = [.error f] := by
  rw [items_step, read]

@[simp] theorem items_end (read : next line = .ok (.eof, rest)) : items line = [.ok .eof] := by
  rw [items_step, read]
  exact if_pos rfl

@[simp] theorem items_token (read : next line = .ok (t, rest)) (inside : t ≠ .eof) :
    items line = .ok t :: items rest := by
  rw [items_step, read]
  exact if_neg inside

@[simp] theorem items_nil : items [] = [.ok .eof] := by
  have read : next [] = .ok (.eof, []) := rfl
  exact items_end read

/-- An item that ends the reading of a line. -/
def Verdict : Except LexFault Token → Prop
  | .ok t => t = .eof
  | .error _ => True

/-- Every line has a single verdict, and it stands behind all tokens. -/
theorem items_shape (line : List Char) :
    ∃ (tokens : List Token) (verdict : Except LexFault Token),
      items line = tokens.map .ok ++ [verdict] ∧ Verdict verdict ∧ Token.eof ∉ tokens := by
  induction line using items.induct with
  | case1 line f read => exact ⟨[], .error f, by simp [read], trivial, by simp⟩
  | case2 line rest read => exact ⟨[], .ok .eof, by simp [read], rfl, by simp⟩
  | case3 line t rest read inside ih =>
    obtain ⟨tokens, verdict, shape, closes, clean⟩ := ih
    refine ⟨t :: tokens, verdict, by simp [items_token read inside, shape], closes, ?_⟩
    simp only [List.mem_cons, not_or]
    exact ⟨Ne.symm inside, clean⟩

/-- Nothing stands behind the end of a line. -/
theorem items_after_end (before : List (Except LexFault Token)) {after : List (Except LexFault Token)}
    (split : items line = before ++ .ok .eof :: after) : after = [] := by
  obtain ⟨tokens, verdict, shape, _, clean⟩ := items_shape line
  rcases List.eq_nil_or_concat after with rfl | ⟨more, last, rfl⟩
  · rfl
  · rw [shape, List.concat_eq_append, ← List.cons_append, ← List.append_assoc] at split
    have front := (List.append_inj' split rfl).1
    have member : .ok .eof ∈ (tokens.map .ok : List (Except LexFault Token)) := by simp [front]
    obtain ⟨t, inside, same⟩ := List.mem_map.mp member
    cases same
    exact absurd inside clean

/-- The split of a line that reads well gives back its items. -/
theorem gather_clean_iff {sequence : List (Except LexFault Token)} {tokens : List Token} :
    gather sequence = (tokens, none) ↔ sequence = tokens.map .ok := by
  induction sequence generalizing tokens with
  | nil => cases tokens <;> simp [gather]
  | cons item more ih =>
    cases item with
    | error f => cases tokens <;> simp [gather]
    | ok t =>
      cases tokens with
      | nil => simp [gather]
      | cons first others =>
        have tail : gather more = (others, none) ↔ more = others.map .ok := ih
        simp only [gather, Prod.ext_iff, List.map_cons, List.cons.injEq, Except.ok.injEq] at tail ⊢
        rw [← tail, and_assoc]

/-- A character that the text of a number may hold. -/
def isNumeralChar (c : Char) : Bool :=
  isMantissa c || isSign c || c == 'e' || c == 'E'

/-- A text that begins like a number and stays in the alphabet of numbers. -/
def NumberText (text : String) : Prop :=
  ∃ first more, text.toList = first :: more ∧ startsNumber first = true ∧ ∀ c ∈ more, isNumeralChar c = true

theorem finish_number_text {text rest rest' : List Char} {read : String}
    (done : finishNumber text rest = .ok (read, rest')) : read = String.ofList text := by
  unfold finishNumber at done
  split at done
  · cases done
  · split at done
    · cases done; rfl
    · split at done
      · cases done
      · cases done; rfl

private theorem split_sign_alphabet (cs : List Char) : ∀ c ∈ (splitSign cs).1, isNumeralChar c = true := by
  intro c member
  unfold splitSign at member
  split at member
  · cases member
  · split at member
    · rename_i sign
      cases List.mem_singleton.mp member
      simp [isNumeralChar, sign]
    · cases member

private theorem take_while_alphabet {kind : Char → Bool} {cs : List Char}
    (within : ∀ c, kind c = true → isNumeralChar c = true) :
    ∀ c ∈ cs.takeWhile kind, isNumeralChar c = true :=
  fun c member => within c (List.mem_takeWhile_imp member)

/-- An exponent only adds characters of the same alphabet to a mantissa. -/
private theorem scan_exponent_text {mantissa cs rest : List Char} {text : String}
    (read : scanExponent mantissa cs = .ok (text, rest)) :
    ∃ more, text.toList = mantissa ++ more ∧ ∀ c ∈ more, isNumeralChar c = true := by
  unfold scanExponent at read
  split at read
  · exact ⟨[], by simp [finish_number_text read], by simp⟩
  · rename_i e tail
    split at read
    · rename_i marks
      dsimp only at read
      split at read
      · cases read
      · refine ⟨_, by rw [finish_number_text read, String.toList_ofList], ?_⟩
        intro c member
        rcases List.mem_cons.mp member with rfl | member
        · rcases marks with rfl | rfl <;> rfl
        rcases List.mem_append.mp member with sign | digit
        · exact split_sign_alphabet _ c sign
        · exact take_while_alphabet (fun c digit => by simp [isNumeralChar, isMantissa, digit]) c digit
    · exact ⟨[], by simp [finish_number_text read], by simp⟩

private theorem scan_number_text {first : Char} {cs rest : List Char} {text : String}
    (read : scanNumber first cs = .ok (text, rest)) :
    ∃ more, text.toList = first :: more ∧ ∀ c ∈ more, isNumeralChar c = true := by
  unfold scanNumber at read
  split at read
  · cases read
  · obtain ⟨tail, spelled, alphabet⟩ := scan_exponent_text read
    refine ⟨_, by rw [spelled, List.cons_append], ?_⟩
    intro c member
    rcases List.mem_append.mp member with mantissa | exponent
    · exact take_while_alphabet (fun c mantissa => by simp [isNumeralChar, mantissa]) c mantissa
    · exact alphabet c exponent

/-- The ways to read a token that begins with a character, and what is left behind it. -/
inductive Scanned (c : Char) (cs : List Char) : Token → List Char → Prop where
  | lparen (mark : c = '(') : Scanned c cs .lparen cs
  | rparen (mark : c = ')') : Scanned c cs .rparen cs
  | comma (mark : c = ',') : Scanned c cs .comma cs
  | semicolon (mark : c = ';') : Scanned c cs .semicolon cs
  | str {text : String} {rest : List Char} (quote : c = '\"') (scanned : scanText [] cs = .ok (text, rest)) :
    Scanned c cs (.str text) rest
  | number {text : String} {rest : List Char} (starts : startsNumber c = true)
    (scanned : scanNumber c cs = .ok (text, rest)) : Scanned c cs (.number text) rest
  | ident (starts : startsName c = true) :
    Scanned c cs (.ident (String.ofList (c :: cs.takeWhile isNameChar))) (cs.dropWhile isNameChar)

theorem scan_token_cases {c : Char} {cs : List Char} (read : scanToken c cs = .ok (t, rest)) : Scanned c cs t rest := by
  unfold scanToken at read
  split at read
  · rename_i mark
    cases read
    exact .lparen mark
  split at read
  · rename_i mark
    cases read
    exact .rparen mark
  split at read
  · rename_i mark
    cases read
    exact .comma mark
  split at read
  · rename_i mark
    cases read
    exact .semicolon mark
  split at read
  · rename_i quote
    cases scanned : scanText [] cs with
    | error f => rw [scanned] at read; cases read
    | ok found =>
      rw [scanned] at read
      cases read
      exact .str quote scanned
  split at read
  · rename_i starts
    cases scanned : scanNumber c cs with
    | error f => rw [scanned] at read; cases read
    | ok found =>
      rw [scanned] at read
      cases read
      exact .number starts scanned
  split at read
  · rename_i starts
    cases read
    exact .ident starts
  · cases read

/-- A scanner of tokens never gives the end of the line. -/
theorem scan_token_inside {c : Char} {cs : List Char} (read : scanToken c cs = .ok (t, rest)) : t ≠ .eof := by
  rintro rfl
  cases scan_token_cases read

/-- A token inside the line begins with its first character that is not blank. -/
theorem next_inside (read : next line = .ok (t, rest)) (inside : t ≠ .eof) :
    ∃ c cs, line.dropWhile Text.isBlank = c :: cs ∧ Scanned c cs t rest := by
  unfold next at read
  split at read
  · cases read
    exact absurd rfl inside
  · rename_i c cs left
    split at read
    · cases read
      exact absurd rfl inside
    · exact ⟨c, cs, left, scan_token_cases read⟩

theorem next_number {text : String} (read : next line = .ok (.number text, rest)) :
    ∃ c cs, startsNumber c = true ∧ scanNumber c cs = .ok (text, rest) := by
  obtain ⟨c, cs, _, found⟩ := next_inside read Token.noConfusion
  cases found with
  | number starts scanned => exact ⟨c, cs, starts, scanned⟩

/-- Every token of a line is the next one at some place. -/
theorem items_read (member : .ok t ∈ items line) : ∃ place rest, next place = .ok (t, rest) := by
  induction line using items.induct with
  | case1 line f read => simp [read] at member
  | case2 line rest read =>
    have same : t = .eof := by simpa [read] using member
    subst same
    exact ⟨line, rest, read⟩
  | case3 line found rest read inside ih =>
    rw [items_token read inside] at member
    rcases List.mem_cons.mp member with same | later
    · cases same
      exact ⟨line, rest, read⟩
    · exact ih later

/-- Every number token of a line comes from the scanner of numbers. -/
theorem items_scanned {text : String} (member : .ok (.number text) ∈ items line) :
    ∃ c cs rest, startsNumber c = true ∧ scanNumber c cs = .ok (text, rest) := by
  obtain ⟨place, rest, read⟩ := items_read member
  obtain ⟨c, cs, starts, scanned⟩ := next_number read
  exact ⟨c, cs, rest, starts, scanned⟩

/-- The number tokens of a line all stay in the alphabet of numbers. -/
theorem items_number {text : String} (member : .ok (.number text) ∈ items line) : NumberText text := by
  obtain ⟨c, cs, rest, starts, scanned⟩ := items_scanned member
  obtain ⟨more, spelled, alphabet⟩ := scan_number_text scanned
  exact ⟨c, more, spelled, starts, alphabet⟩

end Tabscript.TokenStream
