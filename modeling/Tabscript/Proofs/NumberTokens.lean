import Tabscript.Proofs.NumeralReadings

/-! The texts that number tokens have.

A number is scanned greedily and checked as a whole afterwards, so what the scanner takes is
not evident from its steps. It is a little more than the grammar of numbers: a point alone
passes for a mantissa if an exponent brings the digit that is asked for. Every such text, and
every number of the grammar, is a token wherever it stands by itself. -/
namespace Tabscript.NumberTokens
open Token TokenStream WrittenTokens NumeralReadings

variable {s : String} {t : Token} {text : List Char}

private theorem gathered_item {sequence : List (Except LexFault Token)} (member : t ∈ (gather sequence).1) :
    .ok t ∈ sequence := by
  induction sequence with
  | nil => cases member
  | cons item more ih =>
    cases item with
    | error f => cases member
    | ok first =>
      rcases List.mem_cons.mp member with rfl | later
      · exact List.mem_cons_self
      · exact List.mem_cons_of_mem _ (ih later)

/-- What the check of a whole number lets pass, split into its parts. -/
def Passes (text : List Char) : Prop :=
  ∃ sign mantissa exponent, Parts sign mantissa exponent text ∧ mantissa.count '.' ≤ 1 ∧
    ∃ c ∈ mantissa ++ exponent, c.isDigit = true

theorem number_passes (number : IsNumber text) : Passes text := by
  obtain ⟨sign, mantissa, exponent, rfl, signed, shape, tail⟩ := number
  obtain ⟨c, inside, digit⟩ := mantissa_digit shape
  rw [List.append_assoc]
  exact ⟨sign, mantissa, exponent, mantissa_parts signed shape tail, mantissa_point shape, c,
    List.mem_append_left _ inside, digit⟩

private theorem exponent_digit {exponent : List Char} (tail : Exponent exponent) (given : exponent ≠ []) :
    ∃ c ∈ exponent, c.isDigit = true := by
  cases tail with
  | none => exact absurd rfl given
  | some marks signed digits =>
    obtain ⟨c, inside⟩ := List.exists_mem_of_ne_nil _ digits.1
    exact ⟨c, by simp [inside], digits.2 c inside⟩

theorem hollow_passes (hollow : Hollow text) : Passes text := by
  obtain ⟨sign, exponent, rfl, signed, tail, given⟩ := hollow
  obtain ⟨c, inside, digit⟩ := exponent_digit tail given
  exact ⟨sign, ['.'], exponent, point_parts signed tail, Nat.le_refl 1, c, List.mem_append_right _ inside, digit⟩

/-- A text that passes is one token where nothing continues it. -/
theorem passing_next {rest : List Char} (passes : Passes s.toList) (apart : begins continues rest = false) :
    next (s.toList ++ rest) = .ok (.number s, rest) := by
  obtain ⟨sign, mantissa, exponent, parts, point, digit⟩ := passes
  have some : s.toList ≠ [] := by
    rw [parts.joined]
    apply List.append_ne_nil_of_right_ne_nil
    apply List.append_ne_nil_of_left_ne_nil
    exact parts.given
  obtain ⟨first, more, spelled⟩ := List.exists_cons_of_ne_nil some
  have split := spelled.symm.trans parts.joined
  obtain ⟨starts, scanned⟩ := scan_number_spelled split parts.optional parts.alphabet parts.given point
    parts.tail digit apart
  rw [← spelled, String.ofList_toList] at scanned
  rw [spelled, List.cons_append]
  exact next_scanned starts scanned

theorem passing_alone (passes : Passes s.toList) : items s.toList = [.ok (.number s), .ok .eof] := by
  have read : next (s.toList ++ []) = .ok (.number s, []) := passing_next passes rfl
  rw [List.append_nil] at read
  simp [items_token read]

/-- The exceptions are outside the grammar. -/
theorem hollow_no_number (hollow : Hollow text) : ¬ IsNumber text := by
  obtain ⟨sign, exponent, rfl, signed, tail, _⟩ := hollow
  rintro ⟨other, mantissa, back, joined, optional, shape, behind⟩
  have parts := mantissa_parts optional shape behind
  rw [← List.append_assoc, ← joined] at parts
  obtain ⟨_, rfl, _⟩ := parts_unique (point_parts signed tail) parts
  exact point_alone shape

/-- Number tokens are exactly the numbers of the grammar and the texts whose only digits are
those of an exponent. Either kind is a number token of some line exactly if the text by itself
is read as that token and nothing else, and no text is of both kinds. -/
theorem number_token_iff (s : String) :
    ((∃ line, Token.number s ∈ (lex line).1) ↔ IsNumber s.toList ∨ Hollow s.toList) ∧
    (lex s = ([.number s, .eof], none) ↔ IsNumber s.toList ∨ Hollow s.toList) ∧
    ¬ (IsNumber s.toList ∧ Hollow s.toList) := by
  have shaped {line : String} (member : Token.number s ∈ (lex line).1) : IsNumber s.toList ∨ Hollow s.toList :=
    items_number_shape (gathered_item member)
  have alone (shape : IsNumber s.toList ∨ Hollow s.toList) : lex s = ([.number s, .eof], none) := by
    have passes : Passes s.toList := shape.elim number_passes hollow_passes
    exact gather_clean_iff.mpr (passing_alone passes)
  have member (read : lex s = ([.number s, .eof], none)) : Token.number s ∈ (lex s).1 := by simp [read]
  refine ⟨⟨?_, ?_⟩, ⟨fun read => shaped (member read), alone⟩, ?_⟩
  · rintro ⟨line, inside⟩
    exact shaped inside
  · intro shape
    exact ⟨s, member (alone shape)⟩
  · rintro ⟨formed, hollow⟩
    exact hollow_no_number hollow formed

/-- A point and an exponent, without any digit before it, are read as a number. -/
theorem bare_point_is_a_number :
    lex ".e5" = ([.number ".e5", .eof], none) ∧ ¬ IsNumber ".e5".toList := by
  have hollow : Hollow ".e5".toList :=
    ⟨[], ['e', '5'], rfl, .inl rfl,
      unsigned_exponent (.inl rfl) ⟨List.cons_ne_nil _ _, List.all_eq_true.mp rfl⟩, List.cons_ne_nil _ _⟩
  exact ⟨gather_clean_iff.mpr (passing_alone (hollow_passes hollow)), hollow_no_number hollow⟩

end Tabscript.NumberTokens
