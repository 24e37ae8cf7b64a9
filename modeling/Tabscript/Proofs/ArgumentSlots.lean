import Mathlib.Data.List.Forall2
import Tabscript.Operation.Check
import Tabscript.Proofs.TokenStream

/-! What the arguments of a call stand for at the parameters of an entry. The
relations go by slot and by kind of argument; they do not mention the functions
that read arguments, places or faults. A call that passes the check supplies a
value for every parameter, and none of its arguments is left over. -/
namespace Tabscript.ArgumentSlots
open Token TokenStream Slot

/-- A text that spells a truth value in letters of any case. -/
def SpellsFlag (b : Bool) (s : String) : Prop :=
  s.toList.map Char.toLower = (boolText b).toList

/-- What a single argument stands for at a slot. Bare names and numbers are texts where a text is asked for; a
quoted number loses the blanks around it. -/
inductive StandsFor : Slot → Expr → Value → Prop where
  | quotedText (s : String) : StandsFor .text (.str s) (.text s)
  | bareText (s : String) : StandsFor .text (.ident s) (.text s)
  | numberText (s : String) : StandsFor .text (.number s) (.text s)
  | bareNumber (s : String) : StandsFor .number (.number s) (.number s)
  | quotedNumber (s : String) (numeral : NumberText (Text.trimmed s)) :
    StandsFor .number (.str s) (.number (Text.trimmed s))
  | bareInteger (s : String) : StandsFor .integer (.number s) (.number s)
  | quotedInteger (s : String) (numeral : NumberText (Text.trimmed s)) :
    StandsFor .integer (.str s) (.number (Text.trimmed s))
  | bareFlag (default b : Bool) (s : String) (spelled : SpellsFlag b s) : StandsFor (.flag default) (.ident s) (.flag b)
  | quotedFlag (default b : Bool) (s : String) (spelled : SpellsFlag b s) : StandsFor (.flag default) (.str s) (.flag b)

/-- What an argument stands for in a list of values, where its kind is kept. -/
inductive Member : Expr → Literal → Prop where
  | text (s : String) : Member (.str s) (.text s)
  | number (s : String) : Member (.number s) (.number s)
  | flag (b : Bool) (s : String) (spelled : SpellsFlag b s) : Member (.ident s) (.flag b)

/-- The values that arguments supply to parameters in order. A flag that is left out has its default, and a list
takes all arguments that are left. -/
inductive Supplies : List Param → List Expr → List Value → Prop where
  | nil : Supplies [] [] []
  | given {p : Param} {params : List Param} {e : Expr} {args : List Expr} {v : Value} {values : List Value} :
    StandsFor p.slot e v → Supplies params args values → Supplies (p :: params) (e :: args) (v :: values)
  | omitted {p : Param} {params : List Param} {default : Bool} {values : List Value} :
    p.slot = .flag default → Supplies params [] values → Supplies (p :: params) [] (.flag default :: values)
  | rest {p : Param} {params : List Param} {args : List Expr} {items : List Literal} {values : List Value} :
    p.slot = .values → args ≠ [] → List.Forall₂ Member args items → Supplies params [] values →
      Supplies (p :: params) args (.list items :: values)

variable {e : Expr} {s n : String} {b : Bool} {place : Nat} {params : List Param} {args rest : List Expr}
variable {v : Value} {values : List Value} {items : List Literal} {slot : Slot}

theorem bool_spelled (read : bool? s = some b) : SpellsFlag b s := by
  simp only [bool?] at read
  split at read
  · rename_i word
    cases read
    exact word
  · split at read
    · rename_i word
      cases read
      exact word
    · cases read

private theorem number_in_text (read : numberIn? s = some n) : n = Text.trimmed s ∧ NumberText n := by
  simp only [numberIn?] at read
  split at read
  · rename_i text more found
    split at read
    · rename_i whole
      cases read
      exact ⟨whole, items_number (by rw [found]; simp)⟩
    · cases read
  · cases read

private theorem read_text_stands (read : readText e = .ok s) : StandsFor .text e (.text s) := by
  cases e with
  | str | ident | number => cases read; constructor
  | call => cases read

/-- A number is an argument written as one, or a quoted text that holds just a number. -/
private theorem read_number_cases (read : readNumber e = .ok s) :
    e = .number s ∨ ∃ quoted, e = .str quoted ∧ s = Text.trimmed quoted ∧ NumberText s := by
  cases e with
  | number => cases read; exact .inl rfl
  | str quoted =>
    simp only [readNumber] at read
    split at read
    · rename_i text found
      cases read
      exact .inr ⟨quoted, rfl, number_in_text found⟩
    · cases read
  | ident | call => cases read

private theorem read_number_stands (read : readNumber e = .ok s) : StandsFor .number e (.number s) := by
  rcases read_number_cases read with rfl | ⟨quoted, rfl, rfl, numeral⟩
  · exact .bareNumber s
  · exact .quotedNumber quoted numeral

private theorem read_integer_stands (read : readInteger e = .ok s) : StandsFor .integer e (.number s) := by
  unfold readInteger at read
  split at read
  · cases read
  · rename_i text number
    split at read
    · cases read
      rcases read_number_cases number with rfl | ⟨quoted, rfl, rfl, numeral⟩
      · exact .bareInteger s
      · exact .quotedInteger quoted numeral
    · cases read

private theorem flag_word {word : String} {misfit : Misfit}
    (read : (match bool? word with
      | some b => Except.ok b
      | none => .error misfit) = .ok b) : SpellsFlag b word := by
  split at read
  · rename_i found
    cases read
    exact bool_spelled found
  · cases read

private theorem read_flag_stands (default : Bool) (read : readFlag e = .ok b) :
    StandsFor (.flag default) e (.flag b) := by
  cases e with
  | ident word => exact .bareFlag default b word (flag_word read)
  | str word => exact .quotedFlag default b word (flag_word read)
  | number | call => cases read

private theorem read_literal_member {item : Literal} (read : readLiteral e = .ok item) : Member e item := by
  cases e with
  | str | number => cases read; constructor
  | ident word =>
    simp only [readLiteral] at read
    split at read
    · rename_i found
      cases read
      exact .flag _ word (bool_spelled found)
    · cases read
  | call => cases read

private theorem read_literals_members (read : readLiterals place args = .ok items) :
    List.Forall₂ Member args items := by
  induction args generalizing place items with
  | nil => cases read; exact .nil
  | cons e more ih =>
    rw [readLiterals] at read
    split at read
    · cases read
    · rename_i item head
      cases tail : readLiterals (place + 1) more with
      | error misfit => rw [tail] at read; cases read
      | ok others =>
        rw [tail] at read
        cases read
        exact .cons (read_literal_member head) (ih tail)

theorem read_one_ok {α : Type} {read : Expr → Except Misfit α} {wrap : α → Value}
    (ran : readOne read wrap place args = .ok (v, rest)) :
    ∃ e a, args = e :: rest ∧ read e = .ok a ∧ v = wrap a := by
  cases args with
  | nil => cases ran
  | cons e more =>
    rw [readOne] at ran
    split at ran
    · cases ran
    · rename_i a found
      cases ran
      exact ⟨e, a, rfl, found, rfl⟩

/-- What a slot takes off the arguments: one of them, nothing at all for a flag, or all of them for a list. -/
inductive Takes : Slot → List Expr → Value → List Expr → Prop where
  | one {slot : Slot} {e : Expr} {v : Value} {rest : List Expr} : StandsFor slot e v → Takes slot (e :: rest) v rest
  | none (default : Bool) : Takes (.flag default) [] (.flag default) []
  | all {args : List Expr} {items : List Literal} :
    args ≠ [] → List.Forall₂ Member args items → Takes .values args (.list items) []

theorem read_takes (read : slot.read place args = .ok (v, rest)) : Takes slot args v rest := by
  cases slot with
  | text =>
    obtain ⟨e, text, rfl, found, rfl⟩ := read_one_ok read
    exact .one (read_text_stands found)
  | number =>
    obtain ⟨e, text, rfl, found, rfl⟩ := read_one_ok read
    exact .one (read_number_stands found)
  | integer =>
    obtain ⟨e, text, rfl, found, rfl⟩ := read_one_ok read
    exact .one (read_integer_stands found)
  | flag default =>
    cases args with
    | nil => cases read; exact .none default
    | cons first more =>
      have single : readOne readFlag .flag place (first :: more) = .ok (v, rest) := read
      obtain ⟨e, b, same, found, rfl⟩ := read_one_ok single
      rw [same]
      exact .one (read_flag_stands default found)
  | values =>
    cases args with
    | nil => cases read
    | cons first more =>
      simp only [Slot.read] at read
      cases members : readLiterals place (first :: more) with
      | error misfit => rw [members] at read; cases read
      | ok items =>
        rw [members] at read
        cases read
        exact .all (List.cons_ne_nil _ _) (read_literals_members members)

/-- Whether a number of arguments can be used up by parameters. -/
def Fits (params : List Param) (count : Nat) : Prop :=
  params.any Entry.isVariadic = true ∨ count ≤ params.length

/-- Parameters that admit the number of arguments take every one of them. -/
theorem read_params_supplies (read : Entry.readParams place params args = .ok values)
    (fits : Fits params args.length) : Supplies params args values := by
  induction params generalizing place args values with
  | nil =>
    rcases fits with variadic | few
    · cases variadic
    · cases List.length_eq_zero_iff.mp (Nat.le_zero.mp few)
      cases read
      exact .nil
  | cons p params ih =>
    rw [Entry.readParams] at read
    split at read
    · cases read
    · rename_i v rest taken
      cases later : Entry.readParams (place + 1) params rest with
      | error misfit => rw [later] at read; cases read
      | ok others =>
        rw [later] at read
        cases read
        have takes := read_takes taken
        generalize kind : p.slot = slot at takes
        cases takes with
        | one stands =>
          rw [← kind] at stands
          -- A list never takes a single argument, so a variadic parameter is still ahead.
          refine .given stands (ih later ?_)
          rcases fits with variadic | few
          · rw [List.any_cons, Bool.or_eq_true] at variadic
            rcases variadic with here | there
            · rw [beq_iff_eq.mp here] at stands
              cases stands
            · exact .inl there
          · exact .inr (Nat.le_of_succ_le_succ few)
        | none default => exact .omitted kind (ih later (.inr (Nat.zero_le _)))
        | all given members => exact .rest kind given members (ih later (.inr (Nat.zero_le _)))

theorem arity_fits {entry : Entry} {count : Nat} (accepted : entry.arity.accepts count = true) :
    Fits entry.params count := by
  have bound : entry.params.countP Entry.isOptional ≤ entry.params.length := List.countP_le_length
  unfold Entry.arity at accepted
  dsimp only at accepted
  split at accepted
  · rename_i variadic
    exact .inl variadic
  · split at accepted
    · rw [Arity.accepts, beq_iff_eq] at accepted
      exact .inr (by omega)
    · simp only [Arity.accepts, Bool.and_eq_true, decide_eq_true_eq] at accepted
      exact .inr (by omega)

theorem supplies_length (supplies : Supplies params args values) : values.length = params.length := by
  induction supplies with
  | nil => rfl
  | given _ _ ih | omitted _ _ ih | rest _ _ _ _ ih => simp [ih]

/-- A call passes the check exactly if its name is in the catalog, its arguments are as many as the entry admits, and
all of them can be read. Where the call was written does not matter. -/
theorem validate_ok_iff {call : Call} {op : Operation} :
    call.validate = .ok op ↔ ∃ entry, lookup call.name = some entry ∧
      entry.arity.accepts call.args.length = true ∧ op.name = entry.name ∧
      Entry.readParams 0 entry.params call.args = .ok op.args := by
  unfold Call.validate
  constructor
  · intro valid
    split at valid
    · cases valid
    · rename_i entry found
      split at valid
      · rename_i accepted
        split at valid
        · rename_i values read
          cases valid
          exact ⟨entry, found, accepted, rfl, read⟩
        · cases valid
      · cases valid
  · rintro ⟨entry, found, accepted, named, read⟩
    simp only [found, accepted, if_true, read, ← named]

/-- A call that passes the check belongs to an entry of its name, and its arguments supply the parameters. -/
theorem validate_supplies {call : Call} {op : Operation} (valid : call.validate = .ok op) :
    ∃ entry, lookup call.name = some entry ∧ op.name = entry.name ∧ Supplies entry.params call.args op.args := by
  obtain ⟨entry, found, accepted, named, read⟩ := validate_ok_iff.mp valid
  exact ⟨entry, found, named, read_params_supplies read (arity_fits accepted)⟩

theorem lookup_some {name : String} {entry : Entry} (found : lookup name = some entry) :
    entry ∈ catalog ∧ entry.name = name :=
  ⟨List.mem_of_find?_eq_some found, beq_iff_eq.mp (List.find?_some found :)⟩

end Tabscript.ArgumentSlots
