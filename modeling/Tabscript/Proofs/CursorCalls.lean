import Tabscript.Proofs.WrittenTokens
import Tabscript.Token.Cursor

/-! A cursor that is asked again and again gives the items of its line and then nothing.

Each call takes a piece off the front of what is left. For a token the piece is what its
scanner takes, so the calls go through the line as `items` does. For a fault the piece has
at least the character that the scanner was started with, and for every item but the end
of the line it is not empty. The flag is set with the verdict and never cleared. -/
namespace Tabscript.CursorCalls
open Token TokenStream WrittenTokens

variable {cs rest : List Char} {c : Char} {t : Token} {cursor : Cursor}

section Scanners

private theorem text_end_suffix (cs : List Char) : textEnd cs <:+ cs := by
  fun_induction textEnd cs with
  | case1 => exact List.suffix_rfl
  | case2 rest => exact List.suffix_cons _ rest
  | case3 => exact List.nil_suffix
  | case4 e more _ ih => exact (ih.trans (List.suffix_cons e more)).trans (List.suffix_cons _ _)
  | case5 c rest _ _ ih => exact ih.trans (List.suffix_cons c rest)

private theorem split_sign_suffix (cs : List Char) : (splitSign cs).2 <:+ cs := by
  unfold splitSign
  split
  · exact List.suffix_rfl
  · rename_i c rest
    split
    · exact List.suffix_cons c rest
    · exact List.suffix_rfl

private theorem exponent_end_suffix (cs : List Char) : exponentEnd cs <:+ cs := by
  unfold exponentEnd
  split
  · exact List.suffix_rfl
  · rename_i e rest
    split
    · exact ((List.dropWhile_suffix _).trans (split_sign_suffix rest)).trans (List.suffix_cons e rest)
    · exact List.suffix_rfl

private theorem number_end_suffix (first : Char) (cs : List Char) : numberEnd first cs <:+ cs := by
  unfold numberEnd
  split
  · exact List.suffix_rfl
  · exact (exponent_end_suffix _).trans (List.dropWhile_suffix _)

/-- Whatever is read, and whether or not it is a fault, the front of the line is taken and no more. -/
private theorem token_end_suffix (c : Char) (cs : List Char) : tokenEnd c cs <:+ cs := by
  unfold tokenEnd
  split
  · exact text_end_suffix cs
  split
  · exact number_end_suffix c cs
  split
  · exact List.dropWhile_suffix _
  · exact List.suffix_rfl

private theorem scan_text_end {held : List Char} {text : String} (scanned : scanText held cs = .ok (text, rest)) :
    rest = textEnd cs := by
  fun_induction scanText held cs with
  | case1 => cases scanned
  | case2 held more =>
    cases scanned
    rw [textEnd.eq_def]
    rfl
  | case3 => cases scanned
  | case4 held _ e more ih =>
    rw [textEnd.eq_def]
    exact ih scanned
  | case5 held c more unquoted unescaped ih =>
    rw [textEnd.eq_def]
    dsimp only
    rw [if_neg unquoted, if_neg unescaped]
    exact ih scanned

private theorem scan_exponent_end {mantissa : List Char} {text : String}
    (scanned : scanExponent mantissa cs = .ok (text, rest)) : rest = exponentEnd cs := by
  unfold scanExponent at scanned
  split at scanned
  · exact finishNumber_rest scanned
  · rename_i e more
    rw [exponentEnd]
    split at scanned
    · rename_i marks
      rw [if_pos marks]
      dsimp only at scanned
      split at scanned
      · cases scanned
      · exact finishNumber_rest scanned
    · rename_i unmarked
      rw [if_neg unmarked]
      exact finishNumber_rest scanned

private theorem scan_number_end {first : Char} {text : String} (scanned : scanNumber first cs = .ok (text, rest)) :
    rest = numberEnd first cs := by
  unfold scanNumber at scanned
  rw [numberEnd]
  split at scanned
  · cases scanned
  · rename_i lone
    rw [if_neg lone]
    exact scan_exponent_end scanned

/-- Where no fault is met, the reading of a token stops where its scanner says. -/
private theorem scan_token_end (read : scanToken c cs = .ok (t, rest)) : rest = tokenEnd c cs := by
  have unquoted (leads : Leads c) : c ≠ '\"' := fun quote => leads.unsigned (by simp [quote])
  cases scan_token_cases read with
  | lparen mark | rparen mark | comma mark | semicolon mark =>
    rw [mark]
    rfl
  | str quote scanned =>
    rw [tokenEnd, if_pos quote]
    exact scan_text_end scanned
  | number starts scanned =>
    rw [tokenEnd, if_neg (unquoted (starts_number_leads starts)), if_pos starts]
    exact scan_number_end scanned
  | ident starts =>
    have unnumbered : ¬ startsNumber c = true := Bool.eq_false_iff.mp (starts_name_unnumbered starts)
    rw [tokenEnd, if_neg (unquoted (starts_name_leads starts)), if_neg unnumbered, if_pos starts]

end Scanners

section Answers

/-- One call does what one step of the reading does, and is finished with its verdict. -/
theorem call_reads (line : List Char) :
    ∃ left, Cursor.next ⟨line, false⟩ = match Token.next line with
      | .error f => (some (.error f), ⟨left, true⟩)
      | .ok (t, rest) => if t = .eof then (some (.ok .eof), ⟨left, true⟩) else (some (.ok t), ⟨rest, false⟩) := by
  rw [Cursor.next, Token.next, if_neg Bool.false_ne_true]
  cases line.dropWhile Text.isBlank with
  | nil => exact ⟨[], rfl⟩
  | cons c more =>
    dsimp only
    split
    · exact ⟨more, rfl⟩
    · cases scanned : scanToken c more with
      | error f => exact ⟨tokenEnd c more, rfl⟩
      | ok found =>
        obtain ⟨t, rest⟩ := found
        refine ⟨[], ?_⟩
        dsimp only
        rw [if_neg (scan_token_inside scanned), ← scan_token_end scanned]

variable {item : Except LexFault Token} {given : Option (Except LexFault Token)} {following : Cursor}

private theorem answer_first (call : cursor.next = (given, following)) : cursor.answer 0 = given := by
  rw [Cursor.answer, Cursor.after, call]

private theorem answer_later (call : cursor.next = (given, following)) (calls : Nat) :
    cursor.answer (calls + 1) = following.answer calls := by
  rw [Cursor.answer, Cursor.after, call, Cursor.answer]

private theorem finished_answer (stopped : cursor.finished = true) (calls : Nat) : cursor.answer calls = none := by
  have stays : cursor.next = (none, cursor) := by rw [Cursor.next, if_pos stopped]
  induction calls with
  | zero => exact answer_first stays
  | succ calls ih => rw [answer_later stays, ih]

/-- Behind an item that finishes the reading there is none. -/
theorem answers_verdict (call : cursor.next = (some item, following)) (stopped : following.finished = true)
    (calls : Nat) : cursor.answer calls = [item][calls]? := by
  cases calls with
  | zero => exact answer_first call
  | succ calls =>
    rw [answer_later call, finished_answer stopped]
    rfl

private theorem after_succ (cursor : Cursor) (calls : Nat) :
    cursor.after (calls + 1) = (cursor.after calls).next.2 := by
  induction calls generalizing cursor with
  | zero => rfl
  | succ calls ih => exact ih cursor.next.2

/-- The calls give the items of the line in order, and nothing behind them. -/
theorem answers_are_items (line : List Char) (calls : Nat) :
    Cursor.answer ⟨line, false⟩ calls = (items line)[calls]? := by
  induction line using items.induct generalizing calls with
  | case1 line f read =>
    obtain ⟨left, call⟩ := call_reads line
    rw [read] at call
    simpa [read] using answers_verdict call rfl calls
  | case2 line rest read =>
    obtain ⟨left, call⟩ := call_reads line
    rw [read] at call
    simpa [read] using answers_verdict call rfl calls
  | case3 line t rest read inside ih =>
    obtain ⟨left, call⟩ := call_reads line
    rw [read] at call
    dsimp only at call
    rw [if_neg inside] at call
    rw [items_token read inside]
    cases calls with
    | zero => exact answer_first call
    | succ calls =>
      rw [answer_later call, ih, List.getElem?_cons_succ]

end Answers

section Progress

variable {item : Except LexFault Token}

/-- A call that gives anything but the end of the line has started a scanner at some character,
and stops where that scanner does. -/
private theorem call_place (given : cursor.next.1 = some item) (inside : item ≠ .ok .eof) :
    ∃ gap c more, cursor.rest = gap ++ c :: more ∧ cursor.next.2.rest = tokenEnd c more := by
  have split : cursor.rest = cursor.rest.takeWhile Text.isBlank ++ cursor.rest.dropWhile Text.isBlank :=
    List.takeWhile_append_dropWhile.symm
  unfold Cursor.next at given ⊢
  split at given
  · cases given
  · rename_i going
    rw [if_neg going]
    cases left : cursor.rest.dropWhile Text.isBlank with
    | nil =>
      rw [left] at given
      cases given
      exact absurd rfl inside
    | cons c more =>
      rw [left] at given split
      refine ⟨_, c, more, split, ?_⟩
      dsimp only at given ⊢
      split at given
      · cases given
        exact absurd rfl inside
      · rename_i uncommented
        rw [if_neg uncommented]
        cases scanToken c more with
        | error f => rfl
        | ok found => rfl

/-- Every item but the end of the line takes a piece off what is left, a fault included. -/
private theorem call_takes (given : cursor.next.1 = some item) (inside : item ≠ .ok .eof) :
    ∃ taken, taken ≠ [] ∧ cursor.rest = taken ++ cursor.next.2.rest := by
  obtain ⟨gap, c, more, split, place⟩ := call_place given inside
  obtain ⟨front, joined⟩ := token_end_suffix c more
  refine ⟨gap ++ c :: front, by simp, ?_⟩
  rw [split, place, List.append_assoc, List.cons_append, joined]

-- A mark without digits is taken with its sign, and what follows it is left.
example : (Cursor.ofLine " 1e+x").next = (some (.error (.emptyExponent "1e+")), ⟨['x'], true⟩) := by
  decide +kernel

end Progress

section Lines

theorem items_bounded (line : List Char) : (items line).length ≤ line.length + 1 := by
  induction line using items.induct with
  | case1 line f read => simp [read]
  | case2 line rest read => simp [read]
  | case3 line t rest read inside ih =>
    have shorter := next_length read inside
    rw [items_token read inside, List.length_cons]
    omega

/-- Tokens stand in front of the verdict, and none of them is one. -/
theorem items_one_verdict (line : List Char) :
    ∃ before verdict, items line = before ++ [verdict] ∧ Verdict verdict ∧ ∀ item ∈ before, ¬ Verdict item := by
  obtain ⟨tokens, verdict, shape, closes, clean⟩ := items_shape line
  refine ⟨tokens.map .ok, verdict, shape, closes, ?_⟩
  intro item member
  obtain ⟨t, inside, rfl⟩ := List.mem_map.mp member
  rintro rfl
  exact clean inside

end Lines

/-- A line has one final verdict. Asked again and again, a cursor on the line gives a finite
list of items and then nothing, however often it is asked. The list is what the line is read
as, and has at most one item more than the line has characters. Its last item is the end of
the line or a fault, and no other item is. Each call that gives another item than the end of
the line takes at least one character off what is left of the line. -/
theorem calls_end_with_one_verdict (line : String) :
    (∀ calls, (Cursor.ofLine line).answer calls = (items line.toList)[calls]?) ∧
    (items line.toList).length ≤ line.length + 1 ∧
    (∃ before verdict, items line.toList = before ++ [verdict] ∧ Verdict verdict ∧
      ∀ item ∈ before, ¬ Verdict item) ∧
    ∀ calls item, (Cursor.ofLine line).answer calls = some item → item ≠ .ok .eof →
      ∃ taken, taken ≠ [] ∧
        ((Cursor.ofLine line).after calls).rest = taken ++ ((Cursor.ofLine line).after (calls + 1)).rest := by
  refine ⟨answers_are_items line.toList, ?_, items_one_verdict line.toList, ?_⟩
  · rw [← String.length_toList]
    exact items_bounded line.toList
  · intro calls item given inside
    rw [after_succ]
    exact call_takes given inside

end Tabscript.CursorCalls
