import Tabscript.Proofs.NumberTokens

/-! Every token that is read off some line can be written again.

A spelling is read as its token wherever nothing continues it, so spellings may be put one
after another with a blank between them. A sequence of tokens that were read, taken from
whatever lines, is then the sequence of a line of its own. -/
namespace Tabscript.SpelledTokens
open Token TokenStream WrittenTokens NumberTokens NumeralReadings

variable {form rest line : List Char} {t : Token} {tokens : List Token}

/-- The characters are read as the token if nothing behind them continues a name or a number. -/
structure Spells (form : List Char) (t : Token) : Prop where
  inside : t ≠ .eof
  read : ∀ rest, begins continues rest = false → next (form ++ rest) = .ok (t, rest)

/-- A token that has a spelling. -/
def Writable (t : Token) : Prop :=
  ∃ form, Spells form t

theorem items_spelled (spells : Spells form t) (apart : begins continues rest = false) :
    items (form ++ rest) = .ok t :: items rest :=
  items_token (spells.read rest apart) spells.inside

theorem items_gap {gap : List Char} (blank : Blank gap) (line : List Char) : items (gap ++ line) = items line := by
  rw [items_step, items_step, next_gap blank]

theorem form_spells (written : Form t form) (proper : Proper t) : Spells form t where
  inside := by
    rintro rfl
    cases written
  read rest apart := by
    have clear : Apart t rest := by
      cases written with
      | ident | number => exact apart
      | str | lparen | rparen | comma | semicolon => trivial
    have blank : Blank [] := List.forall_mem_nil _
    exact next_form blank written proper clear

/-- A number is spelled by its own text, with a digit in its mantissa or without. -/
theorem number_spells {s : String} (passes : Passes s.toList) : Spells s.toList (.number s) where
  inside := by simp
  read _ apart := passing_next passes apart

/-- Any text can be written between quotes. -/
theorem text_writable (s : String) : Writable (.str s) := by
  have formed (cs : List Char) : ∃ body, TextForm cs body := by
    induction cs with
    | nil => exact ⟨[], .nil⟩
    | cons c more ih =>
      obtain ⟨body, tail⟩ := ih
      by_cases quote : c = '\"'
      · subst quote
        exact ⟨_, .cons .quote tail⟩
      by_cases backslash : c = '\\'
      · subst backslash
        exact ⟨_, .cons .backslash tail⟩
      exact ⟨_, .cons (.raw quote backslash) tail⟩
  obtain ⟨body, inside⟩ := formed s.toList
  exact ⟨_, form_spells (.str inside) trivial⟩

theorem mark_writable : Writable .lparen ∧ Writable .rparen ∧ Writable .comma ∧ Writable .semicolon :=
  ⟨⟨_, form_spells .lparen trivial⟩, ⟨_, form_spells .rparen trivial⟩, ⟨_, form_spells .comma trivial⟩,
    ⟨_, form_spells .semicolon trivial⟩⟩

theorem name_writable {s : String} (named : IsName s.toList) : Writable (.ident s) :=
  ⟨_, form_spells (.ident s) named⟩

theorem items_name {text : String} (member : .ok (.ident text) ∈ items line) : IsName text.toList := by
  obtain ⟨place, rest, read⟩ := items_read member
  obtain ⟨c, cs, _, found⟩ := next_inside read Token.noConfusion
  cases found with
  | ident starts =>
    rw [String.toList_ofList]
    exact ⟨c, _, rfl, starts, fun _ member => List.mem_takeWhile_imp member⟩

/-- What has been read can be written. -/
theorem item_writable (member : .ok t ∈ items line) (inside : t ≠ .eof) : Writable t := by
  cases t with
  | ident s => exact name_writable (items_name member)
  | number s => exact ⟨_, number_spells ((items_number_shape member).elim number_passes hollow_passes)⟩
  | str s => exact text_writable s
  | lparen => exact mark_writable.1
  | rparen => exact mark_writable.2.1
  | comma => exact mark_writable.2.2.1
  | semicolon => exact mark_writable.2.2.2
  | eof => exact absurd rfl inside

/-- Tokens that can be written are the tokens of some line, with a blank before each. -/
theorem written_line (writable : ∀ t ∈ tokens, Writable t) :
    ∃ line, begins continues line = false ∧ items line = (tokens ++ [Token.eof]).map .ok := by
  induction tokens with
  | nil => exact ⟨[], rfl, items_nil⟩
  | cons t more ih =>
    obtain ⟨form, spells⟩ := writable t (by simp)
    obtain ⟨line, apart, read⟩ := ih fun other member => writable other (List.mem_cons_of_mem _ member)
    have blank : Blank [' '] := by decide
    refine ⟨[' '] ++ (form ++ line), rfl, ?_⟩
    rw [items_gap blank, items_spelled spells apart, read]
    rfl

end Tabscript.SpelledTokens
