import Tabscript.Proofs.NumeralReadings

/-! A line that lexes without a fault is the sequence of its tokens and nothing else.

The parts of a line are described apart from the scanners: blanks, the spelling of each
token, and a comment behind the last. A name, a number and a sign are spelled by their own
text. A text is spelled by a literal that decodes to it, and since a pair that is no escape
stands for itself, several literals may decode to one text. Each scanner takes the spelling
of its token off the line, no character more or less. -/
namespace Tabscript.LexedLines
open Token TokenStream WrittenTokens NumeralReadings

/-- What the characters between two quotes stand for. A backslash always takes the character
behind it along, so that no quote stands here by itself. -/
inductive Decodes : List Char → List Char → Prop where
  | nil : Decodes [] []
  | plain {c : Char} {body text : List Char} (unquoted : c ≠ '\"') (unescaped : c ≠ '\\')
    (tail : Decodes body text) : Decodes (c :: body) (c :: text)
  | feed {body text : List Char} (tail : Decodes body text) : Decodes ('\\' :: 'n' :: body) ('\n' :: text)
  | tab {body text : List Char} (tail : Decodes body text) : Decodes ('\\' :: 't' :: body) ('\t' :: text)
  | quote {body text : List Char} (tail : Decodes body text) : Decodes ('\\' :: '\"' :: body) ('\"' :: text)
  | backslash {body text : List Char} (tail : Decodes body text) : Decodes ('\\' :: '\\' :: body) ('\\' :: text)
  | kept {c : Char} {body text : List Char} (other : c ∉ ['n', 't', '\"', '\\']) (tail : Decodes body text) :
    Decodes ('\\' :: c :: body) ('\\' :: c :: text)

/-- The characters that a token may be read from. The end of a line has none. -/
inductive Spelling : Token → List Char → Prop where
  | ident {text : String} (named : IsName text.toList) : Spelling (.ident text) text.toList
  | number {text : String} (shape : IsNumber text.toList ∨ Hollow text.toList) : Spelling (.number text) text.toList
  | str {text : String} {body : List Char} (inside : Decodes body text.toList) :
    Spelling (.str text) ('\"' :: (body ++ ['\"']))
  | lparen : Spelling .lparen ['(']
  | rparen : Spelling .rparen [')']
  | comma : Spelling .comma [',']
  | semicolon : Spelling .semicolon [';']

/-- Neither a name nor a number has a letter, a digit or an underscore directly behind it. -/
def Ended : Token → List Char → Prop
  | .ident _, rest | .number _, rest => begins isNameChar rest = false
  | _, _ => True

/-- The line is made of the tokens in order, each behind a run of blanks, and of blanks and
perhaps a comment at its end. -/
inductive Composed : List Token → List Char → Prop where
  | bare {gap : List Char} (blank : Blank gap) : Composed [] gap
  | comment {gap : List Char} (blank : Blank gap) (rest : List Char) : Composed [] (gap ++ '#' :: rest)
  | token {t : Token} {more : List Token} {gap form rest : List Char} (blank : Blank gap) (spelling : Spelling t form)
    (ended : Ended t rest) (behind : Composed more rest) : Composed (t :: more) (gap ++ (form ++ rest))

variable {line cs rest : List Char} {c : Char} {t : Token}

section Texts

variable {held body text : List Char}

private theorem decodes_pair (e : Char) (tail : Decodes body text) :
    Decodes ('\\' :: e :: body) (unescape e ++ text) := by
  unfold unescape
  split
  · rename_i same
    subst same
    exact .feed tail
  split
  · rename_i same
    subst same
    exact .tab tail
  split
  · rename_i same
    subst same
    exact .quote tail
  split
  · rename_i same
    subst same
    exact .backslash tail
  · rename_i feed tab quote backslash
    refine .kept ?_ tail
    simp [feed, tab, quote, backslash]

/-- The scanner of texts takes a literal up to its closing quote and gives what it decodes to. -/
theorem scan_text_decodes {read : String} (scanned : scanText held cs = .ok (read, rest)) :
    ∃ body text, cs = body ++ '\"' :: rest ∧ Decodes body text ∧ read.toList = held.reverse ++ text := by
  fun_induction scanText held cs with
  | case1 => cases scanned
  | case2 held more =>
    cases scanned
    exact ⟨[], [], rfl, .nil, by rw [String.toList_ofList, List.append_nil]⟩
  | case3 => cases scanned
  | case4 held e more _ ih =>
    obtain ⟨body, text, rfl, decodes, spelled⟩ := ih scanned
    refine ⟨'\\' :: e :: body, unescape e ++ text, rfl, decodes_pair e decodes, ?_⟩
    rw [spelled, List.reverse_append, List.reverse_reverse, List.append_assoc]
  | case5 held c more unquoted unescaped ih =>
    obtain ⟨body, text, rfl, decodes, spelled⟩ := ih scanned
    refine ⟨c :: body, c :: text, rfl, .plain unquoted unescaped decodes, ?_⟩
    rw [spelled, List.reverse_cons, List.append_assoc, List.singleton_append]

end Texts

section Numbers

variable {text front : List Char} {read : String}

/-- A character that goes on with a name begins one or is a digit. -/
private theorem name_char_stops (name : begins startsName rest = false) (digit : begins Char.isDigit rest = false) :
    begins isNameChar rest = false := by
  cases rest with
  | nil => rfl
  | cons c more =>
    simp only [begins, startsName, isNameChar, Char.isAlphanum, Bool.or_eq_false_iff] at name digit ⊢
    exact ⟨⟨name.1, digit⟩, name.2⟩

private theorem finish_number_ended {left : List Char} (done : finishNumber text rest = .ok (read, left)) :
    begins startsName rest = false := by
  unfold finishNumber at done
  split at done
  · cases done
  · split at done
    · rfl
    · split at done
      · cases done
      · rename_i unnamed
        exact Bool.eq_false_iff.mpr unnamed

private theorem split_sign_joined (cs : List Char) : (splitSign cs).1 ++ (splitSign cs).2 = cs := by
  unfold splitSign
  split
  · rfl
  · split <;> rfl

private theorem scan_exponent_joined (stop : begins Char.isDigit cs = false)
    (scanned : scanExponent front cs = .ok (read, rest)) :
    front ++ cs = read.toList ++ rest ∧ begins isNameChar rest = false := by
  have bare (done : finishNumber front cs = .ok (read, rest)) :
      front ++ cs = read.toList ++ rest ∧ begins isNameChar rest = false := by
    have ended := finish_number_ended done
    rw [finish_number_text done, finishNumber_rest done, String.toList_ofList]
    exact ⟨rfl, name_char_stops ended stop⟩
  unfold scanExponent at scanned
  split at scanned
  · exact bare scanned
  · rename_i mark tail
    split at scanned
    · dsimp only at scanned
      split at scanned
      · cases scanned
      · have ended := finish_number_ended scanned
        rw [finish_number_text scanned, finishNumber_rest scanned, String.toList_ofList]
        refine ⟨?_, name_char_stops ended (begins_drop_while _ _)⟩
        rw [List.append_assoc, List.cons_append, List.append_assoc, List.takeWhile_append_dropWhile,
          split_sign_joined]
    · exact bare scanned

/-- The scanner of numbers takes the text of the number, up to where nothing goes on with it. -/
private theorem scan_number_joined (scanned : scanNumber c cs = .ok (read, rest)) :
    c :: cs = read.toList ++ rest ∧ begins isNameChar rest = false := by
  unfold scanNumber at scanned
  split at scanned
  · cases scanned
  · have stop : begins Char.isDigit (cs.dropWhile isMantissa) = false := by
      have mantissa := begins_drop_while isMantissa cs
      cases left : cs.dropWhile isMantissa with
      | nil => rfl
      | cons d more =>
        rw [left] at mantissa
        simp only [begins, isMantissa, Bool.or_eq_false_iff] at mantissa
        exact mantissa.1
    obtain ⟨joined, ended⟩ := scan_exponent_joined stop scanned
    rw [List.cons_append, List.takeWhile_append_dropWhile] at joined
    exact ⟨joined, ended⟩

end Numbers

section Lines

/-- One token takes its spelling off the line. -/
theorem scanned_spelling (found : Scanned c cs t rest) :
    ∃ form, Spelling t form ∧ Ended t rest ∧ c :: cs = form ++ rest := by
  cases found with
  | lparen mark => exact ⟨_, .lparen, trivial, congrArg (· :: cs) mark⟩
  | rparen mark => exact ⟨_, .rparen, trivial, congrArg (· :: cs) mark⟩
  | comma mark => exact ⟨_, .comma, trivial, congrArg (· :: cs) mark⟩
  | semicolon mark => exact ⟨_, .semicolon, trivial, congrArg (· :: cs) mark⟩
  | str quote scanned =>
    obtain ⟨body, text, joined, decodes, spelled⟩ := scan_text_decodes scanned
    rw [List.reverse_nil, List.nil_append] at spelled
    rw [← spelled] at decodes
    refine ⟨_, .str decodes, trivial, ?_⟩
    rw [quote, joined, List.cons_append, List.append_assoc, List.singleton_append]
  | @number text _ starts scanned =>
    obtain ⟨joined, ended⟩ := scan_number_joined scanned
    have member : .ok (.number text) ∈ items (c :: cs) := by
      simp [items_token (next_scanned starts scanned)]
    exact ⟨_, .number (items_number_shape member), ended, joined⟩
  | ident starts =>
    have spelled : c :: cs = (String.ofList (c :: cs.takeWhile isNameChar)).toList ++ cs.dropWhile isNameChar := by
      rw [String.toList_ofList, List.cons_append, List.takeWhile_append_dropWhile]
    refine ⟨_, .ident ?_, begins_drop_while isNameChar cs, spelled⟩
    rw [String.toList_ofList]
    exact ⟨c, _, rfl, starts, fun _ member => List.mem_takeWhile_imp member⟩

/-- The blanks before the next token, and the rest of the line from it. -/
private theorem blanks_before (line : List Char) : ∃ gap, Blank gap ∧ line = gap ++ line.dropWhile Text.isBlank :=
  ⟨line.takeWhile Text.isBlank, fun _ member => List.mem_takeWhile_imp member,
    (List.takeWhile_append_dropWhile).symm⟩

private theorem next_end (read : next line = .ok (.eof, rest)) : Composed [] line := by
  obtain ⟨gap, blank, split⟩ := blanks_before line
  unfold next at read
  split at read
  · rename_i nothing
    rw [nothing, List.append_nil] at split
    rw [split]
    exact .bare blank
  · rename_i c more left
    split at read
    · rename_i same
      rw [split, left, same]
      exact .comment blank more
    · exact absurd rfl (scan_token_inside read)

private theorem next_token (read : next line = .ok (t, rest)) (inside : t ≠ .eof) :
    ∃ gap form, Blank gap ∧ Spelling t form ∧ Ended t rest ∧ line = gap ++ (form ++ rest) := by
  obtain ⟨gap, blank, split⟩ := blanks_before line
  obtain ⟨c, cs, left, found⟩ := next_inside read inside
  obtain ⟨form, spelling, ended, joined⟩ := scanned_spelling found
  refine ⟨gap, form, blank, spelling, ended, ?_⟩
  rw [← joined, ← left]
  exact split

/-- The tokens read off a line, as far as its end, make up the line. -/
theorem items_composed (line : List Char) (tokens : List Token)
    (read : items line = (tokens ++ [Token.eof]).map .ok) : Composed tokens line := by
  induction line using items.induct generalizing tokens with
  | case1 line f fault =>
    cases tokens <;> simp [fault] at read
  | case2 line rest ends =>
    cases tokens with
    | nil => exact next_end ends
    | cons t more => simp [ends] at read
  | case3 line t rest taken inside ih =>
    rw [items_token taken inside] at read
    cases tokens with
    | nil =>
      obtain ⟨same, _⟩ := List.cons.inj read
      cases same
      exact absurd rfl inside
    | cons first more =>
      obtain ⟨same, later⟩ := List.cons.inj read
      cases same
      obtain ⟨gap, form, blank, spelling, ended, rfl⟩ := next_token taken inside
      exact .token blank spelling ended (ih more later)

end Lines

/-- Nothing of a line is lost: if it lexes without a fault, it consists of the spellings of
its tokens in order with blanks before them, of blanks behind them, and of a comment if there
is one. No name and no number could have been longer. -/
theorem lexed_line_is_its_tokens {line : String} (clean : (lex line).2 = none) :
    ∃ tokens, (lex line).1 = tokens ++ [Token.eof] ∧ Composed tokens line.toList := by
  have whole : lex line = ((lex line).1, none) := Prod.ext rfl clean
  have read : items line.toList = (lex line).1.map .ok := gather_clean_iff.mp whole
  obtain ⟨tokens, verdict, shape, closes, _⟩ := items_shape line.toList
  -- The verdict is no fault, since the line has none.
  have ends : verdict = .ok .eof := by
    have member : verdict ∈ items line.toList := by simp [shape]
    rw [read] at member
    obtain ⟨t, _, rfl⟩ := List.mem_map.mp member
    exact congrArg Except.ok closes
  have joined : items line.toList = (tokens ++ [Token.eof]).map .ok := by simp [shape, ends]
  have same : (lex line).1 = tokens ++ [Token.eof] := by
    have lexed : lex line = (tokens ++ [Token.eof], none) := gather_clean_iff.mpr joined
    rw [lexed]
  exact ⟨tokens, same, items_composed line.toList tokens joined⟩

/-- A quote and a number sign in a text, a pair that is no escape, and a comment. -/
theorem lexed_line_is_its_tokens_escapes :
    (lex " f(\"\\\"#\\r\" -1.)# \"").2 = none ∧
      ∃ tokens, (lex " f(\"\\\"#\\r\" -1.)# \"").1 = tokens ++ [Token.eof] ∧
        Composed tokens " f(\"\\\"#\\r\" -1.)# \"".toList := by
  have clean : (lex " f(\"\\\"#\\r\" -1.)# \"").2 = none := by
    decide +kernel
  exact ⟨clean, lexed_line_is_its_tokens clean⟩

end Tabscript.LexedLines
