import Tabscript.Proofs.JsonTexts

/-! Written values are JSON texts.

A value stands for itself in its compact text and in its text over several lines: strings
with whatever characters they hold, numbers with all their digits. What a reader makes of
such a text is therefore decided by the value alone, and not by the blanks and escapes
between the two. -/
namespace Tabscript.WrittenJson
open Json JsonTexts
open WrittenTokens (IsDigits)

/-- The parts of a whole number as it is written. -/
def intText (n : Int) : NumeralText :=
  ⟨decide (n < 0), Nat.toDigits 10 n.natAbs, none, none⟩

mutual

/-- What a reader finds in the text of a value. -/
def draft : Json → Draft
  | .null => .null
  | .bool b => .bool b
  | .number n => numberDraft (intText n)
  | .string s => .string (.ok s)
  | .array items => .array (draftItems items) none
  | .object members => .object (draftMembers members) none

def draftItems : List Json → List Draft
  | [] => []
  | v :: more => draft v :: draftItems more

def draftMembers : List (String × Json) → List (Name × Draft)
  | [] => []
  | (k, v) :: more => (.text (.ok k), draft v) :: draftMembers more

end

section Blanks

variable {d : Draft} {gap more cs : List Char}

private theorem no_space : Space [] := by
  intro c member
  cases member

theorem one_space {c : Char} (blank : isSpace c = true) : Space [c] := by
  intro d member
  rw [List.mem_singleton.mp member]
  exact blank

theorem space_append (space : Space gap) (others : Space more) : Space (gap ++ more) :=
  fun c member => (List.mem_append.mp member).elim (space c) (others c)

theorem bare (value : Writes (.value d) cs) : Writes (.padded d) cs := by
  have padded := Writes.padded no_space no_space value
  rwa [List.append_nil] at padded

private theorem padded_before (space : Space gap) (value : Writes (.padded d) cs) : Writes (.padded d) (gap ++ cs) := by
  cases value with
  | padded front back value =>
    rw [← List.append_assoc]
    exact .padded (space_append space front) back value

private theorem padded_behind (value : Writes (.padded d) cs) (space : Space gap) : Writes (.padded d) (cs ++ gap) := by
  cases value with
  | padded front back value =>
    rw [List.append_assoc, List.append_assoc]
    exact .padded front (space_append back space) value

end Blanks

section Numbers

variable {n : Nat} {digits : List Char}

theorem digits_whole (n : Nat) : WholeForm (Nat.toDigits 10 n) := by
  refine ⟨⟨Nat.toDigits_ne_nil, fun c member => Nat.isDigit_of_mem_toDigits (by decide) (by decide) member⟩, ?_⟩
  induction n using Nat.strongRecOn with
  | ind n ih =>
    by_cases small : n < 10
    · rw [Nat.toDigits_of_lt_base small]
      intro zero
      exact congrArg (·.toList) zero
    · have front : (Nat.toDigits 10 (n / 10)).head?.isSome = true := by simp [Nat.toDigits_ne_nil]
      rw [Nat.toDigits_of_base_le (by decide) (Nat.le_of_not_lt small), List.head?_append, Option.or_of_isSome front]
      intro zero
      -- A zero in front of further digits would be all of the number without its last digit.
      have none : n / 10 = 0 := by
        rw [← Nat.ofDigitChars_ten_toDigits (n := n / 10), ih (n / 10) (by omega) zero]
        rfl
      omega

theorem int_form (n : Int) : NumeralForm (intText n) (toString n).toList := by
  have text : (toString n).toList =
      (if decide (n < 0) = true then ['-'] else []) ++ (Nat.toDigits 10 n.natAbs ++ ([] ++ [])) := by
    cases n with
    | ofNat n =>
      change n.repr.toList = _
      rw [Nat.repr_eq_ofList_toDigits]
      simp
    | negSucc n =>
      change ("-" ++ (n + 1).repr).toList = _
      rw [Nat.repr_eq_ofList_toDigits]
      simp [Int.negSucc_lt_zero]
  rw [text]
  exact .mk (digits_whole n.natAbs) .none .none

private theorem gathered_ge (n : Nat) (digits : List Char) : n ≤ Nat.ofDigitChars 10 digits n := by
  induction digits generalizing n with
  | nil => exact Nat.le_refl n
  | cons c more ih =>
    rw [Nat.ofDigitChars_cons]
    exact Nat.le_trans (by omega) (ih _)

/-- Digits are gathered to the last if what they come to fits 64 bits. -/
private theorem gather_all (fits : Nat.ofDigitChars 10 digits n < wordLimit) :
    gatherDigits n digits = (Nat.ofDigitChars 10 digits n, []) := by
  induction digits generalizing n with
  | nil => rfl
  | cons c more ih =>
    rw [Nat.ofDigitChars_cons] at fits ⊢
    have next : 10 * n + Text.digitValue c < wordLimit := Nat.lt_of_le_of_lt (gathered_ge _ more) fits
    rw [gatherDigits, if_pos next]
    exact ih fits

/-- A number of 64 bits is found as it was written. -/
theorem draft_natural (fits : n < wordLimit) : draft (.number n) = .number (.ok (.natural n)) := by
  have value : Nat.ofDigitChars 10 (Nat.toDigits 10 n) 0 = n := Nat.ofDigitChars_ten_toDigits
  have gathered := gather_all (value.symm ▸ fits)
  rw [value] at gathered
  have found : (intText n).value? = some (.natural n) := by
    have plus : ¬ (n : Int) < 0 := by omega
    simp [NumeralText.value?, intText, gathered, plus]
  rw [draft, numberDraft, found]

end Numbers

section Strings

private theorem hex_digit_value {n : Nat} (digit : n < 16) : hexValue? (hexDigit n) = some n := by
  revert n
  decide

/-- A character is written as itself, or as its number if it has no visible form. -/
theorem escape_form (c : Char) :
    ∃ u, UnitForm u (Json.escapeChar c) ∧ (u = .char c ∨ u = .code c.toNat ∧ c.toNat < 0x20) := by
  by_cases short : ∃ letter, (letter, c) ∈ shortEscapes ∧ Json.escapeChar c = ['\\', letter]
  · obtain ⟨letter, stands, form⟩ := short
    exact ⟨.char c, form ▸ .short stands, .inl rfl⟩
  · have other (letter d : Char) (stands : (letter, d) ∈ shortEscapes) (form : Json.escapeChar d = ['\\', letter]) :
        c ≠ d := by
      rintro rfl
      exact short ⟨letter, stands, form⟩
    have quote : c ≠ '\"' := other '\"' '\"' (by decide) rfl
    have backslash : c ≠ '\\' := other '\\' '\\' (by decide) rfl
    rw [Json.escapeChar, if_neg quote, if_neg backslash, if_neg (other 'b' '\x08' (by decide) rfl),
      if_neg (other 't' '\t' (by decide) rfl), if_neg (other 'n' '\n' (by decide) rfl),
      if_neg (other 'f' '\x0c' (by decide) rfl), if_neg (other 'r' '\r' (by decide) rfl)]
    by_cases hidden : c.toNat < 0x20
    · have zero : hexValue? '0' = some 0 := rfl
      have form := UnitForm.code zero zero (hex_digit_value (n := c.toNat / 16) (by omega))
        (hex_digit_value (n := c.toNat % 16) (by omega))
      have number : ((0 * 16 + 0) * 16 + c.toNat / 16) * 16 + c.toNat % 16 = c.toNat := by omega
      rw [number] at form
      rw [if_pos hidden]
      exact ⟨.code c.toNat, form, .inr ⟨rfl, hidden⟩⟩
    · rw [if_neg hidden]
      exact ⟨.char c, .plain (Nat.le_of_not_lt hidden) quote backslash, .inl rfl⟩

theorem escaped_units (cs : List Char) :
    ∃ units, UnitsForm units (cs.flatMap Json.escapeChar) ∧ characters units = some cs := by
  induction cs with
  | nil => exact ⟨[], .nil, rfl⟩
  | cons c more ih =>
    obtain ⟨units, forms, all⟩ := ih
    obtain ⟨u, form, rfl | ⟨rfl, hidden⟩⟩ := escape_form c
    · refine ⟨.char c :: units, .cons form forms, ?_⟩
      rw [characters, all, Option.map_some]
    · refine ⟨.code c.toNat :: units, .cons form forms, ?_⟩
      have low : isLow c.toNat = false := by
        simp only [isLow, Bool.and_eq_false_iff, decide_eq_false_iff_not]
        omega
      have high : isHigh c.toNat = false := by
        simp only [isHigh, Bool.and_eq_false_iff, decide_eq_false_iff_not]
        omega
      rw [characters.eq_def]
      simp [low, high, all]

theorem text_units (s : String) :
    ∃ units body, UnitsForm units body ∧ content units = .ok s ∧ (stringText s).toList = '\"' :: (body ++ ['\"']) := by
  obtain ⟨units, forms, all⟩ := escaped_units s.toList
  refine ⟨units, _, forms, ?_, String.toList_ofList⟩
  rw [content, all]
  exact congrArg _ String.ofList_toList

theorem string_written (s : String) : Writes (.value (.string (.ok s))) (stringText s).toList := by
  obtain ⟨units, body, forms, whole, text⟩ := text_units s
  rw [text, ← whole]
  exact .string forms

theorem member_written {d : Draft} {before gap cs : List Char} (front : Space before) (k : String) (space : Space gap)
    (value : Writes (.padded d) cs) :
    Writes (.member (.text (.ok k)) d) (before ++ ((stringText k).toList ++ ':' :: (gap ++ cs))) := by
  obtain ⟨units, body, forms, whole, text⟩ := text_units k
  rw [text, ← whole, List.cons_append, List.append_assoc, List.singleton_append]
  -- The blanks behind the colon belong to the value.
  exact .member front forms no_space (padded_before space value)

end Strings

mutual

theorem compact_written (v : Json) : Writes (.value (draft v)) v.compact.toList := by
  match v with
  | .null => exact .null
  | .bool true => exact .yes
  | .bool false => exact .no
  | .number n => exact .number (int_form n)
  | .string s => exact string_written s
  | .array [] => exact .emptyArray no_space
  | .array (v :: more) =>
    rw [draft, compact, String.toList_append, String.toList_append]
    exact .array (compact_items_written (v :: more) (List.cons_ne_nil v more))
  | .object [] => exact .emptyObject no_space
  | .object (m :: more) =>
    rw [draft, compact, Text.toList_braced]
    exact .object (compact_members_written (m :: more) (List.cons_ne_nil m more))

theorem compact_items_written (items : List Json) (given : items ≠ []) :
    Writes (.items (draftItems items)) (compactItems items).toList := by
  match items with
  | [] => exact absurd rfl given
  | [v] => exact .lastItem (bare (compact_written v))
  | v :: w :: more =>
    have text : (compactItems (v :: w :: more)).toList =
        v.compact.toList ++ ',' :: (compactItems (w :: more)).toList := by
      rw [compactItems, String.toList_append, String.toList_append, List.append_assoc]
      · rfl
      · simp
    rw [text]
    exact .item (bare (compact_written v)) (compact_items_written (w :: more) (List.cons_ne_nil w more))

theorem compact_members_written (members : List (String × Json)) (given : members ≠ []) :
    Writes (.members (draftMembers members)) (compactMembers members).toList := by
  match members with
  | [] => exact absurd rfl given
  | [(k, v)] =>
    have text : (compactMembers [(k, v)]).toList = (stringText k).toList ++ ':' :: v.compact.toList := by
      rw [compactMembers, String.toList_append, String.toList_append, List.append_assoc]
      rfl
    have first := member_written no_space k no_space (bare (compact_written v))
    rw [List.nil_append, List.nil_append] at first
    rw [text]
    exact .lastMember first
  | (k, v) :: m :: more =>
    have text : (compactMembers ((k, v) :: m :: more)).toList =
        ((stringText k).toList ++ ':' :: v.compact.toList) ++ ',' :: (compactMembers (m :: more)).toList := by
      rw [compactMembers]
      · simp only [String.toList_append, List.append_assoc]
        rfl
      · simp
    have first := member_written no_space k no_space (bare (compact_written v))
    rw [List.nil_append, List.nil_append] at first
    rw [text]
    exact .nextMember first (compact_members_written (m :: more) (List.cons_ne_nil m more))

end

section Indented

private theorem new_line_space (depth : Nat) : Space (newLine depth).toList := by
  intro c member
  rw [newLine, String.toList_ofList, List.mem_cons] at member
  rcases member with rfl | blank
  · rfl
  · rw [List.eq_of_mem_replicate blank]
    rfl

mutual

theorem indented_written (depth : Nat) (v : Json) : Writes (.value (draft v)) (indentedAt depth v).toList := by
  match v with
  | .null =>
    rw [draft, indentedAt]
    exact .null
  | .bool b =>
    rw [draft, indentedAt]
    cases b with
    | true => exact .yes
    | false => exact .no
  | .number n =>
    rw [draft, indentedAt]
    exact .number (int_form n)
  | .string s =>
    rw [draft, indentedAt]
    exact string_written s
  | .array [] =>
    rw [draft, indentedAt]
    exact .emptyArray no_space
  | .array (v :: more) =>
    have inside := indented_items_written (depth + 1) (v :: more) (List.cons_ne_nil v more) (new_line_space depth)
    rw [draft, indentedAt]
    simp only [String.toList_append]
    exact .array inside
  | .object [] =>
    rw [draft, indentedAt]
    exact .emptyObject no_space
  | .object (m :: more) =>
    have inside := indented_members_written (depth + 1) (m :: more) (List.cons_ne_nil m more) (new_line_space depth)
    rw [draft, indentedAt, Text.toList_braced, String.toList_append]
    exact .object inside

/-- The items of an array, with the blanks before its closing bracket. -/
theorem indented_items_written (depth : Nat) (items : List Json) (given : items ≠ []) {after : List Char}
    (back : Space after) : Writes (.items (draftItems items)) ((indentedItems depth items).toList ++ after) := by
  match items with
  | [] => exact absurd rfl given
  | [v] =>
    rw [indentedItems, String.toList_append, List.append_assoc]
    exact .lastItem (.padded (new_line_space depth) back (indented_written depth v))
  | v :: w :: more =>
    have text : (indentedItems depth (v :: w :: more)).toList ++ after =
        ((newLine depth).toList ++ ((indentedAt depth v).toList ++ [])) ++
          ',' :: ((indentedItems depth (w :: more)).toList ++ after) := by
      rw [indentedItems]
      · simp only [String.toList_append, List.append_assoc, List.append_nil]
        rfl
      · simp
    have first := Writes.padded (new_line_space depth) no_space (indented_written depth v)
    rw [text]
    exact .item first (indented_items_written depth (w :: more) (List.cons_ne_nil w more) back)

/-- The members of an object, with the blanks before its closing brace. -/
theorem indented_members_written (depth : Nat) (members : List (String × Json)) (given : members ≠ [])
    {after : List Char} (back : Space after) :
    Writes (.members (draftMembers members)) ((indentedMembers depth members).toList ++ after) := by
  match members with
  | [] => exact absurd rfl given
  | [(k, v)] =>
    have text : (indentedMembers depth [(k, v)]).toList ++ after =
        (newLine depth).toList ++
          ((stringText k).toList ++ ':' :: ([' '] ++ ((indentedAt depth v).toList ++ after))) := by
      rw [indentedMembers]
      simp only [String.toList_append, List.append_assoc]
      rfl
    have value := Writes.padded no_space back (indented_written depth v)
    rw [text]
    exact .lastMember (member_written (new_line_space depth) k (one_space rfl) value)
  | (k, v) :: m :: more =>
    have text : (indentedMembers depth ((k, v) :: m :: more)).toList ++ after =
        ((newLine depth).toList ++ ((stringText k).toList ++ ':' :: ([' '] ++ (indentedAt depth v).toList))) ++
          ',' :: ((indentedMembers depth (m :: more)).toList ++ after) := by
      rw [indentedMembers]
      · simp only [String.toList_append, List.append_assoc]
        rfl
      · simp
    have first := member_written (new_line_space depth) k (one_space (c := ' ') rfl) (bare (indented_written depth v))
    rw [text]
    exact .nextMember first (indented_members_written depth (m :: more) (List.cons_ne_nil m more) back)

end

end Indented

theorem compact_text (v : Json) : IsText (draft v) v.compact :=
  bare (compact_written v)

theorem indented_text (v : Json) : IsText (draft v) v.indented :=
  bare (indented_written 0 v)

/-- Blanks may follow a text. -/
theorem text_and_blanks {d : Draft} {text after : String} (written : IsText d text) (back : Space after.toList) :
    IsText d (text ++ after) := by
  rw [IsText, String.toList_append]
  exact padded_behind written back

end Tabscript.WrittenJson
