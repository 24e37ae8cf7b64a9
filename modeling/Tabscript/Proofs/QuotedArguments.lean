import Tabscript.Proofs.NumberTokens
import Tabscript.Proofs.NumericArguments
import Tabscript.Proofs.TrailingBlanks

/-! Quotes around an argument, wherever the kind of the argument is not kept.

A quoted number takes another way than a bare one: the blanks around it are dropped and the
rest is read as a line of its own. Both ways meet because every number token reads as itself
when it stands alone. In a list of values the kind of an argument is its meaning, so there
nothing may be put between quotes. -/
namespace Tabscript.QuotedArguments
open Token TokenStream Slot ArgumentSlots WrittenTokens TrailingBlanks NumeralReadings CallVerdicts RenderedCalls
  NumericArguments

/-- The text without the blanks at its ends. -/
structure Stripped (s inner : String) : Prop where
  around : ∃ before after, Blank before ∧ Blank after ∧ s.toList = before ++ (inner.toList ++ after)
  first : begins Text.isBlank inner.toList = false
  last : begins Text.isBlank inner.toList.reverse = false

/-- A text that is a single number token from its first character to its last. -/
def OneNumber (s : String) : Prop :=
  lex s = ([.number s, .eof], none)

/-- An argument and what may stand in its place: itself, or its text between quotes if it is bare. -/
inductive Requotes : Expr → Expr → Prop where
  | same (e : Expr) : Requotes e e
  | name (s : String) : Requotes (.ident s) (.str s)
  | number (s : String) : Requotes (.number s) (.str s)

/-- The arguments with some of them put between quotes. One that has changed stands at a
parameter other than a list. -/
structure Requoted (params : List Param) (args others : List Expr) : Prop where
  paired : List.Forall₂ Requotes args others
  outside : ∀ place : Nat, others[place]? ≠ args[place]? → ∃ p, params[place]? = some p ∧ p.slot ≠ .values

/-- A slot takes an argument, whatever follows it. -/
def Accepts (slot : Slot) (e : Expr) : Prop :=
  ∃ v, ∀ place more, slot.read place (e :: more) = .ok (v, more)

variable {s inner n : String} {e d : Expr} {slot : Slot} {place : Nat} {params : List Param} {args others : List Expr}
variable {values : List Value}

section Stripping

private theorem trim_end_split (cs : List Char) : ∃ after, Blank after ∧ cs = Text.trimEnd cs ++ after := by
  refine ⟨(cs.reverse.takeWhile Text.isBlank).reverse, fun c member => ?_, ?_⟩
  · exact List.mem_takeWhile_imp (List.mem_reverse.mp member)
  · rw [Text.trimEnd, ← List.reverse_append, List.takeWhile_append_dropWhile, List.reverse_reverse]

private theorem trimmed_stripped (s : String) : Stripped s (Text.trimmed s) := by
  obtain ⟨after, blank, split⟩ := trim_end_split (s.toList.dropWhile Text.isBlank)
  refine ⟨⟨s.toList.takeWhile Text.isBlank, after, fun c member => List.mem_takeWhile_imp member, blank, ?_⟩, ?_, ?_⟩
  · rw [Text.trimmed, String.toList_ofList, Text.trim, ← split, List.takeWhile_append_dropWhile]
  · have opens := begins_drop_while Text.isBlank s.toList
    rw [split] at opens
    rw [Text.trimmed, String.toList_ofList, Text.trim]
    cases front : Text.trimEnd (s.toList.dropWhile Text.isBlank) with
    | nil => rfl
    | cons c more =>
      rw [front] at opens
      exact opens
  · rw [Text.trimmed, String.toList_ofList, Text.trim, Text.trimEnd, List.reverse_reverse]
    exact begins_drop_while _ _

theorem stripped_iff : Stripped s inner ↔ inner = Text.trimmed s := by
  constructor
  · rintro ⟨⟨before, after, front, back, split⟩, first, last⟩
    have behind : ∀ c ∈ after.reverse, Text.isBlank c = true := fun c member => back c (List.mem_reverse.mp member)
    have dropped : s.toList.dropWhile Text.isBlank = if inner.toList = [] then [] else inner.toList ++ after := by
      rw [split, List.dropWhile_append_of_pos front]
      cases inside : inner.toList with
      | nil => rw [List.nil_append, if_pos rfl, List.dropWhile_eq_nil_iff.mpr back]
      | cons c more =>
        rw [inside] at first
        have filled : Text.isBlank c = false := first
        simp [filled]
    have ended : Text.trimEnd (inner.toList ++ after) = inner.toList := by
      rw [Text.trimEnd, List.reverse_append, drop_run behind last, List.reverse_reverse]
    rw [Text.trimmed, Text.trim, dropped]
    split
    · rename_i none
      rw [← String.ofList_toList (s := inner), none]
      rfl
    · rw [ended, String.ofList_toList]
  · rintro rfl
    exact trimmed_stripped s

end Stripping

section Numbers

theorem one_number_items : OneNumber s ↔ items s.toList = [.ok (.number s), .ok .eof] :=
  gather_clean_iff

/-- A character of a number is not blank. -/
private theorem numeral_char_filled {c : Char} (numeral : isNumeralChar c = true) : Text.isBlank c = false := by
  apply Bool.eq_false_iff.mpr
  intro blank
  simp only [isNumeralChar, blank_no_mantissa blank, blank_unsigned blank, Bool.false_or, Bool.or_eq_true,
    beq_iff_eq] at numeral
  rcases numeral with rfl | rfl <;> cases blank

/-- Nothing is taken off a number token. -/
theorem numeral_stripped (numeral : NumberText s) : Stripped s s := by
  obtain ⟨first, more, spelled, starts, alphabet⟩ := numeral
  have filled : ∀ c ∈ s.toList, Text.isBlank c = false := by
    rw [spelled]
    intro c member
    rcases List.mem_cons.mp member with rfl | later
    · exact (starts_number_leads starts).unblank
    · exact numeral_char_filled (alphabet c later)
  have unblank (cs : List Char) (inside : ∀ c ∈ cs, c ∈ s.toList) : begins Text.isBlank cs = false := by
    cases cs with
    | nil => rfl
    | cons c rest => exact filled c (inside c List.mem_cons_self)
  refine ⟨⟨[], [], List.forall_mem_nil _, List.forall_mem_nil _, by simp⟩, unblank _ fun c member => member, ?_⟩
  exact unblank _ fun c member => List.mem_reverse.mp member

/-- A quoted text is a number exactly if its inner part is a number token. -/
theorem quoted_numeral_iff : NumberArgument (.str s) n ↔ Stripped s n ∧ OneNumber n := by
  rw [stripped_iff, one_number_items]
  constructor
  · intro numeral
    cases numeral with
    | quoted _ token => exact ⟨rfl, token⟩
  · rintro ⟨rfl, token⟩
    exact .quoted s token

/-- The numbers of a command, put between quotes, are still these numbers. -/
private theorem parsed_number_alone {command : Command} {call : Call} (parsed : Script.parseCommand command = .ok call)
    (member : .number s ∈ call.args) : NumberArgument (.str s) s := by
  have item := parsed_number_item parsed member
  have passes : NumberTokens.Passes s.toList :=
    (items_number_shape item).elim NumberTokens.number_passes NumberTokens.hollow_passes
  exact quoted_numeral_iff.mpr
    ⟨numeral_stripped (items_number item), one_number_items.mpr (NumberTokens.passing_alone passes)⟩

end Numbers

section Slots

/-- A reader gives the same for an argument and for its quoted text, if that text is the same number. -/
private theorem read_number_requoted (requotes : Requotes e d) (alone : ∀ s, e = .number s → NumberArgument (.str s) s)
    (read : readNumber e = .ok n) : readNumber d = .ok n := by
  cases requotes with
  | same => exact read
  | name s => cases read
  | number s =>
    cases read
    exact read_number_iff.mpr (alone n rfl)

private theorem read_text_requoted (requotes : Requotes e d) (read : readText e = .ok s) : readText d = .ok s := by
  cases requotes with
  | same | name | number => exact read

private theorem read_flag_requoted {b : Bool} (requotes : Requotes e d) (read : readFlag e = .ok b) :
    readFlag d = .ok b := by
  cases requotes with
  | same => exact read
  | name s =>
    cases word : bool? s with
    | none => simp [readFlag, word] at read
    | some found => simpa [readFlag, word] using read
  | number s => cases read

theorem read_integer_iff : readInteger e = .ok n ↔ readNumber e = .ok n ∧ isInteger n = true := by
  unfold readInteger
  cases readNumber e with
  | error misfit => simp
  | ok found =>
    dsimp only
    split
    · rename_i whole
      rw [Except.ok.injEq]
      constructor
      · rintro rfl
        exact ⟨rfl, whole⟩
      · exact And.left
    · rename_i other
      simp only [reduceCtorEq, Except.ok.injEq, false_iff, not_and]
      rintro rfl
      exact other

private theorem read_one_requoted {α : Type} {read : Expr → Except Misfit α} {wrap : α → Value} {v : Value}
    {more rest : List Expr} (same : ∀ a, read e = .ok a → read d = .ok a)
    (ran : readOne read wrap place (e :: more) = .ok (v, rest)) :
    rest = more ∧ ∀ others, readOne read wrap place (d :: others) = .ok (v, others) := by
  obtain ⟨_, a, split, found, rfl⟩ := read_one_ok ran
  cases split
  exact ⟨rfl, fun others => by rw [readOne, same a found]⟩

/-- A slot for one argument takes the quoted one for the same value. -/
private theorem slot_read_requoted {v : Value} {more rest : List Expr} (single : slot ≠ .values)
    (requotes : Requotes e d)
    (alone : ∀ s, e = .number s → NumberArgument (.str s) s) (ran : slot.read place (e :: more) = .ok (v, rest)) :
    rest = more ∧ ∀ others, slot.read place (d :: others) = .ok (v, others) := by
  cases slot with
  | text => exact read_one_requoted (fun _ => read_text_requoted requotes) ran
  | number => exact read_one_requoted (fun _ => read_number_requoted requotes alone) ran
  | integer =>
    refine read_one_requoted (fun n read => ?_) ran
    obtain ⟨number, whole⟩ := read_integer_iff.mp read
    exact read_integer_iff.mpr ⟨read_number_requoted requotes alone number, whole⟩
  | flag default => exact read_one_requoted (fun _ => read_flag_requoted requotes) ran
  | values => exact absurd rfl single

private theorem read_one_cases {α : Type} (read : Expr → Except Misfit α) (wrap : α → Value) (place : Nat) (e : Expr) :
    (∃ v, ∀ more, readOne read wrap place (e :: more) = .ok (v, more)) ∨
      ∃ misfit, ∀ more, readOne read wrap place (e :: more) = .error (place, misfit) := by
  cases found : read e with
  | ok a => exact .inl ⟨wrap a, fun more => by rw [readOne, found]⟩
  | error misfit => exact .inr ⟨misfit, fun more => by rw [readOne, found]⟩

/-- A slot for one argument does not look at those behind it. -/
private theorem slot_read_cases (single : slot ≠ .values) (place : Nat) (e : Expr) :
    (∃ v, ∀ more, slot.read place (e :: more) = .ok (v, more)) ∨
      ∃ misfit, ∀ more, slot.read place (e :: more) = .error (place, misfit) := by
  cases slot with
  | text => exact read_one_cases readText .text place e
  | number => exact read_one_cases readNumber .number place e
  | integer => exact read_one_cases readInteger .number place e
  | flag default => exact read_one_cases readFlag .flag place e
  | values => exact absurd rfl single

private theorem accepts_one {α : Type} {read : Expr → Except Misfit α} {wrap : α → Value} :
    (∃ v, ∀ place more, readOne read wrap place (e :: more) = .ok (v, more)) ↔ ∃ a, read e = .ok a := by
  constructor
  · rintro ⟨v, taken⟩
    obtain ⟨_, a, split, found, _⟩ := read_one_ok (taken 0 [])
    cases split
    exact ⟨a, found⟩
  · rintro ⟨a, found⟩
    exact ⟨wrap a, fun place more => by rw [readOne, found]⟩

/-- A quoted text is taken for a number exactly if its inner part is a number token. -/
theorem accepts_number_iff : Accepts .number (.str s) ↔ ∃ inner, Stripped s inner ∧ OneNumber inner := by
  have taken : Accepts .number (.str s) ↔ ∃ n, readNumber (.str s) = .ok n := accepts_one
  simp only [taken, read_number_iff, quoted_numeral_iff]

theorem accepts_integer_iff :
    Accepts .integer (.str s) ↔ ∃ inner, Stripped s inner ∧ OneNumber inner ∧ IntegerText inner := by
  have taken : Accepts .integer (.str s) ↔ ∃ n, readInteger (.str s) = .ok n := accepts_one
  simp only [taken, read_integer_iff, read_number_iff, quoted_numeral_iff, is_integer_iff, and_assoc]

end Slots

section Calls

variable {p : Param} {call : Call} {op : Operation} {entry : Entry}

/-- A list can only be the last parameter. -/
private theorem list_last {others : List Param} (varies : LastVaries (p :: others)) (list : p.slot = .values) :
    others = [] :=
  varying_last varies fun one => read_one_taken one list

private theorem requoted_tail {others : List Param} {args rest : List Expr}
    (requoted : Requoted (p :: others) (e :: args) (d :: rest)) : Requoted others args rest := by
  refine ⟨(List.forall₂_cons.mp requoted.paired).2, fun place changed => ?_⟩
  exact requoted.outside (place + 1) changed

/-- Parameters read the same values off the arguments after some of them were put between quotes. -/
theorem read_params_requoted (varies : LastVaries params) (alone : ∀ s, .number s ∈ args → NumberArgument (.str s) s)
    (requoted : Requoted params args others) (read : Entry.readParams place params args = .ok values) :
    Entry.readParams place params others = .ok values := by
  induction params generalizing args others place values with
  | nil => exact read
  | cons p params ih =>
    cases args with
    | nil =>
      cases requoted.paired
      exact read
    | cons e more =>
      obtain ⟨d, rest, requotes, tail, rfl⟩ := List.forall₂_cons_left_iff.mp requoted.paired
      by_cases list : p.slot = .values
      · -- From a list on, no argument has changed.
        cases list_last varies list
        have same : d :: rest = e :: more := by
          apply List.ext_getElem?
          intro place
          by_contra changed
          obtain ⟨q, faces, single⟩ := requoted.outside place changed
          cases place with
          | zero =>
            cases faces
            exact single list
          | succ before => cases faces
        rw [same]
        exact read
      · rw [Entry.readParams] at read ⊢
        cases taken : p.slot.read place (e :: more) with
        | error misfit =>
          rw [taken] at read
          cases read
        | ok found =>
          obtain ⟨v, left⟩ := found
          obtain ⟨rfl, again⟩ := slot_read_requoted list requotes (fun s same => alone s (by simp [same])) taken
          rw [taken] at read
          rw [again rest]
          dsimp only at read ⊢
          cases later : Entry.readParams (place + 1) params left with
          | error misfit =>
            rw [later] at read
            cases read
          | ok others =>
            have inside := ih (last_varies_tail varies) (fun s member => alone s (List.mem_cons_of_mem _ member))
              (requoted_tail requoted) later
            rw [later] at read
            rw [inside]
            exact read

/-- Arguments that are the same number are the same to a numeric parameter. -/
theorem read_params_set (varies : LastVaries params) {index : Nat} (faces : params[index]? = some p)
    (numeric : IsNumeric p) (same : readNumber d = readNumber e) (place : Nat) (args : List Expr) :
    Entry.readParams place params (args.set index d) = Entry.readParams place params (args.set index e) := by
  induction params generalizing args index place with
  | nil => cases faces
  | cons q params ih =>
    cases args with
    | nil => rfl
    | cons first more =>
      cases index with
      | zero =>
        cases faces
        have taken : p.slot.read place (d :: more) = p.slot.read place (e :: more) := by
          rcases numeric with kind | kind
          · rw [kind, Slot.read, Slot.read, readOne, readOne, same]
          · rw [kind, Slot.read, Slot.read, readOne, readOne, readInteger, readInteger, same]
        rw [List.set_cons_zero, List.set_cons_zero, Entry.readParams, Entry.readParams, taken]
      | succ index =>
        have single : q.slot ≠ .values := by
          intro list
          cases list_last varies list
          cases faces
        rw [List.set_cons_succ, List.set_cons_succ, Entry.readParams, Entry.readParams]
        rcases slot_read_cases single place first with ⟨v, taken⟩ | ⟨misfit, refused⟩
        · rw [taken, taken]
          dsimp only
          rw [ih (last_varies_tail varies) faces (place + 1) more]
        · rw [refused, refused]

theorem validate_requoted {command : Command} (parsed : Script.parseCommand command = .ok call)
    (valid : call.validate = .ok op) (found : lookup call.name = some entry)
    (requoted : Requoted entry.params call.args others) : Call.validate { call with args := others } = .ok op := by
  obtain ⟨_, again, accepted, named, read⟩ := validate_ok_iff.mp valid
  cases found.symm.trans again
  have varies := catalog_last_varies entry (lookup_some found).1
  refine validate_ok_iff.mpr ⟨entry, found, ?_, named, ?_⟩
  · rw [← requoted.paired.length_eq]
    exact accepted
  · exact read_params_requoted varies (fun s member => parsed_number_alone parsed member) requoted read

/-- At a numeric parameter a quoted text is accepted as the bare number inside it, and only as that. -/
theorem validate_quoted_iff (found : lookup call.name = some entry) (faces : entry.params[place]? = some p)
    (numeric : IsNumeric p) (given : place < call.args.length) :
    Call.validate { call with args := call.args.set place (.str s) } = .ok op ↔
      ∃ inner, Stripped s inner ∧ OneNumber inner ∧
        Call.validate { call with args := call.args.set place (.number inner) } = .ok op := by
  have varies := catalog_last_varies entry (lookup_some found).1
  have replaced {inner : String} (numeral : NumberArgument (.str s) inner) :
      Call.validate { call with args := call.args.set place (.str s) } =
        Call.validate { call with args := call.args.set place (.number inner) } := by
    have same : readNumber (.str s) = readNumber (.number inner) := read_number_iff.mpr numeral
    have read := read_params_set varies faces numeric same 0 call.args
    simp only [Call.validate, found, List.length_set, read]
  constructor
  · intro valid
    obtain ⟨_, again, suited⟩ := valid_suited valid
    cases found.symm.trans again
    have here : (call.args.set place (.str s))[place]? = some (.str s) := List.getElem?_set_self given
    obtain ⟨q, facing, suits⟩ := suited place _ here
    have inside := (List.getElem?_eq_some_iff.mp faces).1
    rw [paramAt, Nat.min_eq_left (by omega)] at facing
    cases faces.symm.trans facing
    obtain ⟨inner, numeral, _⟩ := suits_numeral numeric suits
    obtain ⟨stripped, one⟩ := quoted_numeral_iff.mp numeral
    rw [replaced numeral] at valid
    exact ⟨inner, stripped, one, valid⟩
  · rintro ⟨inner, stripped, one, valid⟩
    rw [replaced (quoted_numeral_iff.mpr ⟨stripped, one⟩)]
    exact valid

end Calls

/-- Quotes do not change what an argument means, except in a list of values. Bare names and
numbers of an accepted command may be put between quotes, as many of them as one likes, and
the operation stays the same. A quoted text is taken at a numeric slot exactly if it is a
single number token between blanks, and then for that number. -/
theorem quotes_keep_meaning :
    (∀ command call op entry others, Script.parseCommand command = .ok call → call.validate = .ok op →
      lookup call.name = some entry → Requoted entry.params call.args others →
        Call.validate { call with args := others } = .ok op) ∧
    (∀ s, (Accepts .number (.str s) ↔ ∃ inner, Stripped s inner ∧ OneNumber inner) ∧
      (Accepts .integer (.str s) ↔ ∃ inner, Stripped s inner ∧ OneNumber inner ∧ IntegerText inner)) ∧
    (∀ (call : Call) entry (place : Nat) p s op, lookup call.name = some entry → entry.params[place]? = some p →
      IsNumeric p → place < call.args.length →
        (Call.validate { call with args := call.args.set place (.str s) } = .ok op ↔
          ∃ inner, Stripped s inner ∧ OneNumber inner ∧
            Call.validate { call with args := call.args.set place (.number inner) } = .ok op)) :=
  ⟨fun _ _ _ _ _ => validate_requoted, fun _ => ⟨accepts_number_iff, accepts_integer_iff⟩,
    fun _ _ _ _ _ _ => validate_quoted_iff⟩

/-- A name and a number with a sign, both put between quotes. -/
theorem quotes_keep_meaning_rolling_mean :
    Requoted [⟨"column", .text⟩, ⟨"window_size", .integer⟩] [.ident "Sales", .number "-7"]
      [.str "Sales", .str "-7"] ∧
    Call.validate ⟨"rolling_mean", [.str "Sales", .str "-7"], 1, "rolling_mean(Sales, -7)"⟩ =
      .ok ⟨"rolling_mean", [.text "Sales", .number "-7"]⟩ := by
  have requoted : Requoted [⟨"column", .text⟩, ⟨"window_size", .integer⟩] [.ident "Sales", .number "-7"]
      [.str "Sales", .str "-7"] := by
    refine ⟨.cons (.name "Sales") (.cons (.number "-7") .nil), fun place changed => ?_⟩
    rcases place with _ | _ | _
    · exact ⟨_, rfl, by decide⟩
    · exact ⟨_, rfl, by decide⟩
    · exact absurd rfl changed
  refine ⟨requoted, ?_⟩
  exact quotes_keep_meaning.1 ⟨1, "rolling_mean(Sales, -7)"⟩
    ⟨"rolling_mean", [.ident "Sales", .number "-7"], 1, "rolling_mean(Sales, -7)"⟩
    ⟨"rolling_mean", [.text "Sales", .number "-7"]⟩
    ⟨"rolling_mean", [⟨"column", .text⟩, ⟨"window_size", .integer⟩]⟩ _
    ((CallGrammar.parse_command_line_iff _ _).mpr ⟨rfl, rfl,
      (CallGrammar.parse_line_ok_iff _ _ _).mpr ⟨[], .inl rfl, by decide +kernel⟩⟩)
    (by decide +kernel) (by decide +kernel) requoted

end Tabscript.QuotedArguments
