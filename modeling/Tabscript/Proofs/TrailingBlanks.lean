import Tabscript.Proofs.WrittenTokens

/-! A blank at the end of a line changes nothing that is read off the line.

Each scanner either stops before the blank, and then leaves it behind its rest, or
fails for a reason that a blank cannot mend. This holds inside a text as well: a text
that the line leaves open stays open. So a carriage return that a line keeps, because
no line feed follows it, is harmless. -/
namespace Tabscript.TrailingBlanks
open Token TokenStream WrittenTokens

variable {α : Type} {b c : Char} {cs held text : List Char} {t : Token}

/-- What a scanner gives on a line that goes on with one more character it does not take. -/
def leaving (b : Char) (scanned : Except LexFault (α × List Char)) : Except LexFault (α × List Char) :=
  scanned.map fun (found, rest) => (found, rest ++ [b])

section Characters

private theorem blank_unnamed (blank : Text.isBlank b = true) : startsName b = false := by
  apply Bool.eq_false_iff.mpr
  intro starts
  rw [(starts_name_leads starts).unblank] at blank
  cases blank

private theorem blank_unnumbered (blank : Text.isBlank b = true) : startsNumber b = false := by
  apply Bool.eq_false_iff.mpr
  intro starts
  rw [(starts_number_leads starts).unblank] at blank
  cases blank

theorem blank_unsigned (blank : Text.isBlank b = true) : isSign b = false := by
  have number := blank_unnumbered blank
  simp only [startsNumber, Bool.or_eq_false_iff] at number
  exact number.1.2

private theorem blank_no_digit (blank : Text.isBlank b = true) : b.isDigit = false := by
  have number := blank_unnumbered blank
  simp only [startsNumber, Bool.or_eq_false_iff] at number
  exact number.1.1

theorem blank_no_mantissa (blank : Text.isBlank b = true) : isMantissa b = false := by
  have number := blank_unnumbered blank
  simp only [startsNumber, Bool.or_eq_false_iff] at number
  rw [isMantissa, number.1.1, number.2]
  rfl

private theorem blank_no_name_char (blank : Text.isBlank b = true) : isNameChar b = false := by
  have more := blank_continues blank
  simp only [continues, Bool.or_eq_false_iff] at more
  exact more.1

/-- A blank is none of the characters that steer the scanners. -/
private theorem blank_ne (blank : Text.isBlank b = true) (other : Text.isBlank c = false) : b ≠ c := by
  rintro rfl
  rw [blank] at other
  cases other

end Characters

section Runs

variable {kind : Char → Bool} (stop : kind b = false)

include stop

private theorem take_while_stop (cs : List Char) : (cs ++ [b]).takeWhile kind = cs.takeWhile kind := by
  induction cs with
  | nil => simp [stop]
  | cons c more ih =>
    rw [List.cons_append, List.takeWhile_cons, List.takeWhile_cons, ih]

private theorem drop_while_stop (cs : List Char) : (cs ++ [b]).dropWhile kind = cs.dropWhile kind ++ [b] := by
  rw [List.dropWhile_append]
  split
  · rename_i none
    rw [List.isEmpty_iff.mp none]
    simp [stop]
  · rfl

private theorem begins_stop (cs : List Char) : begins kind (cs ++ [b]) = begins kind cs := by
  cases cs with
  | nil => exact stop
  | cons c more => rfl

end Runs

section Scanners

variable (blank : Text.isBlank b = true)

include blank

theorem scan_text_blank (held cs : List Char) : scanText held (cs ++ [b]) = leaving b (scanText held cs) := by
  have unquoted : b ≠ '\"' := blank_ne blank rfl
  have unescaped : b ≠ '\\' := blank_ne blank rfl
  fun_induction scanText held cs with
  | case1 held =>
    rw [List.nil_append, scanText.eq_def]
    dsimp only
    rw [if_neg unquoted, if_neg unescaped]
    rfl
  | case2 held rest =>
    rw [List.cons_append, scanText.eq_def]
    rfl
  | case3 held =>
    -- The backslash takes the blank with it, and the text is still open.
    rw [List.cons_append, scanText.eq_def]
    rfl
  | case4 held _ e more ih =>
    rw [List.cons_append, List.cons_append, scanText.eq_def]
    exact ih
  | case5 held c rest plain straight ih =>
    rw [List.cons_append, scanText.eq_def]
    dsimp only
    rw [if_neg plain, if_neg straight]
    exact ih

private theorem finish_number_blank (text rest : List Char) :
    finishNumber text (rest ++ [b]) = leaving b (finishNumber text rest) := by
  unfold finishNumber
  split
  · rfl
  · cases rest with
    | nil =>
      rw [List.nil_append]
      dsimp only
      rw [blank_unnamed blank]
      rfl
    | cons c more =>
      rw [List.cons_append]
      dsimp only
      split
      · rfl
      · rfl

private theorem split_sign_blank (cs : List Char) :
    splitSign (cs ++ [b]) = ((splitSign cs).1, (splitSign cs).2 ++ [b]) := by
  cases cs with
  | nil =>
    have unsigned : splitSign [b] = ([], [b]) := by simp [splitSign, blank_unsigned blank]
    exact unsigned
  | cons c more =>
    rw [List.cons_append, splitSign, splitSign]
    split
    · rfl
    · rfl

private theorem scan_exponent_blank (mantissa cs : List Char) :
    scanExponent mantissa (cs ++ [b]) = leaving b (scanExponent mantissa cs) := by
  cases cs with
  | nil =>
    have unmarked : ¬ (b = 'e' ∨ b = 'E') := not_or.mpr ⟨blank_ne blank rfl, blank_ne blank rfl⟩
    have ends : scanExponent mantissa [b] = finishNumber mantissa [b] := if_neg unmarked
    rw [List.nil_append, ends, scanExponent]
    exact finish_number_blank blank mantissa []
  | cons e more =>
    rw [List.cons_append, scanExponent, scanExponent]
    split
    · simp only [split_sign_blank blank, take_while_stop (blank_no_digit blank),
        drop_while_stop (blank_no_digit blank)]
      split
      · rfl
      · exact finish_number_blank blank _ _
    · exact finish_number_blank blank mantissa (e :: more)

private theorem scan_number_blank (first : Char) (cs : List Char) :
    scanNumber first (cs ++ [b]) = leaving b (scanNumber first cs) := by
  rw [scanNumber, scanNumber, begins_stop (blank_no_mantissa blank), take_while_stop (blank_no_mantissa blank),
    drop_while_stop (blank_no_mantissa blank)]
  split
  · rfl
  · exact scan_exponent_blank blank _ _

theorem scan_token_blank (c : Char) (cs : List Char) : scanToken c (cs ++ [b]) = leaving b (scanToken c cs) := by
  unfold scanToken
  iterate 4
    split
    · rfl
  split
  · rw [scan_text_blank blank]
    cases scanText [] cs <;> rfl
  split
  · rw [scan_number_blank blank]
    cases scanNumber c cs <;> rfl
  split
  · rw [take_while_stop (blank_no_name_char blank), drop_while_stop (blank_no_name_char blank)]
    rfl
  · rfl

end Scanners

private theorem drop_blanks (blank : Text.isBlank b = true) (cs : List Char) :
    (cs ++ [b]).dropWhile Text.isBlank =
      if cs.dropWhile Text.isBlank = [] then [] else cs.dropWhile Text.isBlank ++ [b] := by
  simp [List.dropWhile_append, blank]

theorem trim_blank (blank : Text.isBlank b = true) (cs : List Char) : Text.trim (cs ++ [b]) = Text.trim cs := by
  rw [Text.trim, Text.trim, drop_blanks blank]
  split
  · rename_i none
    rw [none]
  · rw [Text.trimEnd, Text.trimEnd, List.reverse_append, List.reverse_singleton, List.singleton_append,
      List.dropWhile_cons, if_pos blank]

theorem trim_end_lead (unblank : Text.isBlank c = false) (more : List Char) :
    ∃ rest, Text.trimEnd (c :: more) = c :: rest := by
  rw [Text.trimEnd, List.reverse_cons, List.dropWhile_append]
  split
  · exact ⟨[], by simp [unblank]⟩
  · exact ⟨(more.reverse.dropWhile Text.isBlank).reverse, by simp⟩

/-- The next token is the same, and unless it is the end of the line the blank is left behind its rest. -/
theorem next_blank (blank : Text.isBlank b = true) (cs : List Char) :
    next (cs ++ [b]) = (next cs).map fun (t, rest) => (t, if t = .eof then rest else rest ++ [b]) := by
  rw [next, next, drop_blanks blank]
  cases left : cs.dropWhile Text.isBlank with
  | nil => rfl
  | cons c more =>
    rw [if_neg (List.cons_ne_nil c more), List.cons_append]
    dsimp only
    split
    · rfl
    · rw [scan_token_blank blank]
      cases scanned : scanToken c more with
      | error f => rfl
      | ok found =>
        obtain ⟨t, rest⟩ := found
        rw [leaving, Except.map, Except.map, if_neg (scan_token_inside scanned)]

/-- A line reads the same with a blank at its end as without. -/
theorem items_blank (blank : Text.isBlank b = true) (cs : List Char) : items (cs ++ [b]) = items cs := by
  induction cs using items.induct with
  | case1 line f read =>
    have again : next (line ++ [b]) = .error f := by rw [next_blank blank, read]; rfl
    simp [again, read]
  | case2 line rest read =>
    have again : next (line ++ [b]) = .ok (.eof, rest) := by rw [next_blank blank, read]; rfl
    simp [again, read]
  | case3 line t rest read inside ih =>
    have again : next (line ++ [b]) = .ok (t, rest ++ [b]) := by
      rw [next_blank blank, read, Except.map]
      dsimp only
      rw [if_neg inside]
    simp [items_token again inside, items_token read inside, ih]

end Tabscript.TrailingBlanks
