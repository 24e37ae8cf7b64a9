import Tabscript.Proofs.ProgramText
import Tabscript.Proofs.QuotedArguments
import Tabscript.Proofs.SpelledTokens

/-! Statements of the generated program, read as scripts.

A statement has the form of a command, so it can be translated once more. Two escape schemes
meet then: what was written for the generated program is read by the rules for scripts. They
differ in a single character. The escape of a carriage return is none in a script, where its
two characters stand for themselves; all else comes back as it was. -/
namespace Tabscript.Retranslation
open Token TokenStream WrittenTokens SpelledTokens NumberTokens CallGrammar Slot ArgumentSlots StatementReader
  CallVerdicts RenderedCalls NumericArguments QuotedArguments ScriptTranslation TextLines ProgramText
open TrailingBlanks (trim_end_lead)

/-- A character after a second translation. -/
def respellChar (c : Char) : List Char :=
  if c = '\r' then ['\\', 'r'] else [c]

/-- The text with a backslash and an r for every carriage return. -/
def respell (s : String) : String :=
  String.ofList (s.toList.flatMap respellChar)

def respellValue : Value → Value
  | .text s => .text (respell s)
  | v => v

/-- The operation with all its texts respelled. -/
def respelled (op : Operation) : Operation :=
  ⟨op.name, op.args.map respellValue⟩

/-- A value and the argument that its rendering is read as. A list has no such argument. -/
inductive Reread : Value → Expr → Prop where
  | text (s : String) : Reread (.text s) (.str (respell s))
  | number {n : String} (passes : Passes n.toList) : Reread (.number n) (.number n)
  | flag (b : Bool) : Reread (.flag b) (.ident (boolText b))

section Texts

variable {s : String} {held rest : List Char}

theorem unreturned_respell (s : String) : '\r' ∉ (respell s).toList := by
  rw [respell, String.toList_ofList]
  intro member
  obtain ⟨c, _, inside⟩ := List.mem_flatMap.mp member
  unfold respellChar at inside
  split at inside
  · revert inside
    decide
  · rename_i other
    exact other (List.mem_singleton.mp inside).symm

/-- Just the texts without a carriage return stay as they are. -/
theorem respell_eq_iff : respell s = s ↔ '\r' ∉ s.toList := by
  constructor
  · intro same
    rw [← same]
    exact unreturned_respell s
  · intro clean
    have single : ∀ c ∈ s.toList, respellChar c = [c] := by
      intro c member
      refine if_neg ?_
      rintro rfl
      exact clean member
    rw [respell, List.flatMap_congr single, List.flatMap_singleton', String.ofList_toList]

/-- A character escaped by one scheme and read by the other. -/
private theorem scan_escape_char (c : Char) :
    scanText held (escapeChar c ++ rest) = scanText ((respellChar c).reverse ++ held) rest := by
  by_cases quote : c = '\"'
  · subst quote
    rfl
  by_cases backslash : c = '\\'
  · subst backslash
    rfl
  by_cases feed : c = '\n'
  · subst feed
    rfl
  by_cases carriage : c = '\r'
  · subst carriage
    rfl
  by_cases tab : c = '\t'
  · subst tab
    rfl
  simp [escapeChar, respellChar, quote, backslash, feed, carriage, tab, scanText.eq_def held]

theorem scan_escaped (cs : List Char) :
    scanText held (cs.flatMap escapeChar ++ '\"' :: rest) =
      .ok (String.ofList (held.reverse ++ cs.flatMap respellChar), rest) := by
  induction cs generalizing held with
  | nil =>
    rw [List.flatMap_nil, List.flatMap_nil, List.append_nil, List.nil_append, scanText.eq_def]
    rfl
  | cons c more ih =>
    rw [List.flatMap_cons, List.append_assoc, scan_escape_char, ih]
    simp

private theorem literal_spells (s : String) : Spells (stringLiteral s).toList (.str (respell s)) where
  inside := by simp
  read rest _ := by
    rw [stringLiteral, String.toList_ofList, List.cons_append, List.append_assoc, List.singleton_append]
    exact next_text (scan_escaped s.toList)

end Texts

section Statements

variable {v : Value} {e : Expr} {values : List Value} {args : List Expr} {rest : List Char} {op : Operation}

/-- The rendering of a value is the spelling of its argument's only token. -/
private theorem value_spells (rereads : Reread v e) : ∃ t, exprTokens e = [t] ∧ Spells v.render.toList t := by
  cases rereads with
  | text s => exact ⟨.str (respell s), rfl, literal_spells s⟩
  | number passes => exact ⟨_, rfl, number_spells passes⟩
  | flag b =>
    refine ⟨.ident (boolText b), rfl, form_spells (.ident _) ?_⟩
    cases b <;> exact ⟨_, _, rfl, rfl, List.all_eq_true.mp rfl⟩

theorem values_items (rereads : List.Forall₂ Reread values args) (apart : begins continues rest = false) :
    items ((String.intercalate ", " (values.map Value.render)).toList ++ rest) =
      (argTokens args).map .ok ++ items rest := by
  induction rereads with
  | nil => rfl
  | @cons v e values args head tail ih =>
    obtain ⟨t, single, spells⟩ := value_spells head
    cases tail with
    | nil =>
      rw [List.map_cons, List.map_nil, String.intercalate_singleton, items_spelled spells apart, argTokens, single]
      rfl
    | @cons w f values args next later =>
      have comma (line : List Char) : items (',' :: line) = .ok .comma :: items line := items_token rfl (by simp)
      have blank : Blank [' '] := by decide
      rw [List.map_cons] at ih
      calc items ((String.intercalate ", " ((v :: w :: values).map Value.render)).toList ++ rest)
          = items (v.render.toList ++ (',' :: ([' '] ++
              ((String.intercalate ", " (w.render :: values.map Value.render)).toList ++ rest)))) := by
            simp [String.intercalate_cons_cons]
        _ = .ok t :: .ok .comma ::
              items ((String.intercalate ", " (w.render :: values.map Value.render)).toList ++ rest) := by
            rw [items_spelled spells rfl, comma, items_gap blank]
        _ = (argTokens (e :: f :: args)).map .ok ++ items rest := by
            rw [ih, arg_tokens_cons, single]
            rfl

private theorem name_shape {name : String} (named : isName name = true) : IsName name.toList := by
  simp only [isName, Bool.and_eq_true, List.all_eq_true] at named
  obtain ⟨starts, alphabet⟩ := named
  cases spelled : name.toList with
  | nil =>
    rw [spelled] at starts
    cases starts
  | cons first more =>
    rw [spelled] at starts alphabet
    exact ⟨first, more, rfl, starts, fun c member => alphabet c (List.mem_cons_of_mem _ member)⟩

/-- A statement is read as a call with a semicolon behind it. -/
theorem statement_items (named : isName op.name = true) (rereads : List.Forall₂ Reread op.args args) :
    items op.render.toList = (callTokens op.name args ++ [Token.semicolon] ++ [Token.eof]).map .ok := by
  have name : Spells op.name.toList (.ident op.name) := form_spells (.ident op.name) (name_shape named)
  have opening (line : List Char) : items ('(' :: line) = .ok .lparen :: items line := items_token rfl (by simp)
  have closing : items [')', ';'] = [.ok .rparen, .ok .semicolon, .ok .eof] := by decide +kernel
  calc items op.render.toList
      = items (op.name.toList ++ '(' ::
          ((String.intercalate ", " (op.args.map Value.render)).toList ++ [')', ';'])) := by
        simp [Operation.render]
    _ = .ok (.ident op.name) :: .ok .lparen :: ((argTokens args).map .ok ++ items [')', ';']) := by
        rw [items_spelled name rfl, opening, values_items rereads rfl]
    _ = (callTokens op.name args ++ [Token.semicolon] ++ [Token.eof]).map .ok := by
        rw [closing]
        simp [callTokens]

end Statements

section Arguments

variable {slot : Slot} {place : Nat} {params : List Param} {args rest : List Expr} {v : Value} {values : List Value}

/-- What a slot has read, rendered and given to it again, is read as the respelled value. -/
private theorem slot_reread (single : slot ≠ .values) (numbers : ∀ e ∈ args, ∀ n, NumberArgument e n → Passes n.toList)
    (read : slot.read place args = .ok (v, rest)) :
    ∃ e, Reread v e ∧ ∀ place more, slot.read place (e :: more) = .ok (respellValue v, more) := by
  cases slot with
  | text =>
    obtain ⟨e, s, rfl, found, rfl⟩ := read_one_ok read
    exact ⟨.str (respell s), .text s, fun _ _ => rfl⟩
  | number =>
    obtain ⟨e, n, rfl, found, rfl⟩ := read_one_ok read
    exact ⟨.number n, .number (numbers e (by simp) n (read_number_iff.mp found)), fun _ _ => rfl⟩
  | integer =>
    obtain ⟨e, n, rfl, found, rfl⟩ := read_one_ok read
    obtain ⟨number, whole⟩ := read_integer_iff.mp found
    have again : readInteger (.number n) = .ok n := read_integer_iff.mpr ⟨rfl, whole⟩
    refine ⟨.number n, .number (numbers e (by simp) n (read_number_iff.mp number)), fun place more => ?_⟩
    rw [Slot.read, readOne, again]
    rfl
  | flag default =>
    have spelled (b : Bool) : readFlag (.ident (boolText b)) = .ok b := by
      cases b <;> rfl
    have again (b : Bool) (place : Nat) (more : List Expr) :
        (Slot.flag default).read place (.ident (boolText b) :: more) = .ok (.flag b, more) := by
      rw [Slot.read, readOne, spelled]
    -- A flag that was left out is written all the same.
    cases args with
    | nil =>
      cases read
      exact ⟨_, .flag default, again default⟩
    | cons first more =>
      have one : readOne readFlag .flag place (first :: more) = .ok (v, rest) := read
      obtain ⟨e, b, _, _, rfl⟩ := read_one_ok one
      exact ⟨_, .flag b, again b⟩
  | values => exact absurd rfl single

/-- A slot leaves a part of the arguments. -/
private theorem read_leaves (read : slot.read place args = .ok (v, rest)) : rest ⊆ args := by
  cases read_takes read with
  | one => exact List.subset_cons_self _ _
  | none | all => exact List.nil_subset _

theorem params_reread (single : ∀ p ∈ params, p.slot ≠ .values)
    (numbers : ∀ e ∈ args, ∀ n, NumberArgument e n → Passes n.toList)
    (read : Entry.readParams place params args = .ok values) :
    ∃ others, List.Forall₂ Reread values others ∧
      ∀ place, Entry.readParams place params others = .ok (values.map respellValue) := by
  induction params generalizing place args values with
  | nil =>
    cases read
    exact ⟨[], .nil, fun _ => rfl⟩
  | cons p params ih =>
    rw [Entry.readParams] at read
    split at read
    · cases read
    · rename_i v rest taken
      cases later : Entry.readParams (place + 1) params rest with
      | error misfit =>
        rw [later] at read
        cases read
      | ok tail =>
        rw [later] at read
        cases read
        obtain ⟨e, first, again⟩ := slot_reread (single p (by simp)) numbers taken
        obtain ⟨others, rereads, behind⟩ := ih (fun q member => single q (List.mem_cons_of_mem _ member))
          (fun d member => numbers d (read_leaves taken member)) later
        refine ⟨e :: others, .cons first rereads, fun place => ?_⟩
        rw [Entry.readParams, again]
        dsimp only
        rw [behind]
        rfl

end Arguments

section Scripts

variable {line : String} {c : Char} {more : List Char}

/-- A line that begins with a name is kept. -/
private theorem kept_named (spelled : line.toList = c :: more) (starts : startsName c = true) : HoldsCommand line := by
  have leads := starts_name_leads starts
  obtain ⟨rest, trimmed⟩ := trim_end_lead leads.unblank more
  have stays : line.toList.dropWhile Text.isBlank = c :: more := by simp [spelled, leads.unblank]
  rw [← holds_command_iff, Script.holdsCommand, Text.trim, stays, trimmed]
  simp [leads.uncommented]

/-- A statement is a script of one command. -/
theorem statement_kept {op : Operation} (named : isName op.name = true)
    (readable : ∀ v ∈ op.args, Readable v) : keptLines op.render = [⟨1, op.render⟩] := by
  obtain ⟨first, more, spelled, starts, _⟩ := name_shape named
  have opens : op.render.toList = first :: (more ++ '(' ::
      ((String.intercalate ", " (op.args.map Value.render)).toList ++ [')', ';'])) := by
    simp [Operation.render, spelled]
  have kept := kept_named opens starts
  have clean : '\n' ∉ op.render.toList := fun feed => (statement_unbroken named readable _ feed).1 rfl
  simp [keptLines, lines_single (kept_nonempty kept) clean, kept]

end Scripts

section Calls

variable {command : Command} {call : Call} {op : Operation} {values : List Value}

/-- Only one operation of the catalog takes a list. -/
private theorem catalog_single :
    ∀ entry ∈ catalog, entry.name ≠ "add_column" → ∀ p ∈ entry.params, p.slot ≠ .values := by
  decide +kernel

/-- The statement of an accepted command is an accepted command again. A flag that was left out
is now given, so there is an argument for every parameter. -/
theorem statement_accepted (parsed : Script.parseCommand command = .ok call) (valid : call.validate = .ok op)
    (other : call.name ≠ "add_column") (line : Nat) :
    ∃ again, Script.parseCommand ⟨line, op.render⟩ = .ok again ∧ again.validate = .ok (respelled op) := by
  obtain ⟨entry, found, accepted, named, read⟩ := validate_ok_iff.mp valid
  obtain ⟨listed, same⟩ := lookup_some found
  have numbers : ∀ e ∈ call.args, ∀ n, NumberArgument e n → Passes n.toList := by
    intro e member n numeral
    exact (parsed_numeral_shape parsed member numeral).elim number_passes hollow_passes
  obtain ⟨others, rereads, again⟩ := params_reread (catalog_single entry listed (same ▸ other)) numbers read
  have isNamed : isName op.name = true := named ▸ catalog_names entry listed
  have count : others.length = entry.params.length := by
    rw [← rereads.length_eq]
    exact supplies_length (read_params_supplies read (arity_fits accepted))
  refine ⟨⟨op.name, others, line, op.render⟩, ?_, ?_⟩
  · refine (parse_command_line_iff _ _).mpr ⟨rfl, rfl, ?_⟩
    exact (parse_line_ok_iff _ _ _).mpr ⟨[.semicolon], .inr rfl, statement_items isNamed rereads⟩
  · refine validate_ok_iff.mpr ⟨entry, ?_, ?_, named, again 0⟩
    · rw [named, same]
      exact found
    · rw [accepts_iff, count]
      exact ⟨Nat.le_add_right _ _, .inr (Nat.le_refl _)⟩

theorem respelled_readable (readable : ∀ v ∈ op.args, Readable v) : ∀ v ∈ (respelled op).args, Readable v := by
  intro v member
  obtain ⟨w, inside, rfl⟩ := List.mem_map.mp member
  cases w with
  | text s => trivial
  | number | flag | list => exact readable _ inside

theorem respell_values_iff :
    values.map respellValue = values ↔ ∀ s, .text s ∈ values → '\r' ∉ s.toList := by
  have pointwise : values.map respellValue = values ↔ ∀ v ∈ values, respellValue v = v := by
    simpa using List.map_inj_left (l := values) (f := respellValue) (g := id)
  rw [pointwise]
  constructor
  · intro same s member
    have text : Value.text (respell s) = .text s := same (.text s) member
    exact respell_eq_iff.mp (Value.text.inj text)
  · intro clean v member
    cases v with
    | text s => exact congrArg Value.text (respell_eq_iff.mpr (clean s member))
    | number | flag | list => rfl

/-- Statements that are read back to different values are different. -/
theorem render_respelled_iff (named : isName op.name = true) (readable : ∀ v ∈ op.args, Readable v) :
    (respelled op).render = op.render ↔ ∀ s, .text s ∈ op.args → '\r' ∉ s.toList := by
  rw [← respell_values_iff]
  constructor
  · intro same
    have first := read_statement_render op named readable
    have second := read_statement_render (respelled op) named (respelled_readable readable)
    rw [same, first] at second
    exact (congrArg Prod.snd (Option.some.inj second)).symm
  · intro same
    rw [respelled, same]

end Calls

/-- A statement is a script of one command, which becomes the same operation with all its texts
respelled, and so the same statement exactly if no text has a carriage return. A list is
written in braces, which no script knows; all other operations can be translated again. -/
theorem statement_is_a_script {command : Command} {call : Call} {op : Operation}
    (parsed : Script.parseCommand command = .ok call) (valid : call.validate = .ok op)
    (other : call.name ≠ "add_column") :
    Script.commands op.render = [⟨1, op.render⟩] ∧
    (∃ again, Script.parseCommand ⟨1, op.render⟩ = .ok again ∧ again.validate = .ok (respelled op)) ∧
    Script.translate op.render = .ok [⟨1, (respelled op).render⟩] ∧
    ((∃ line, Script.translate op.render = .ok [⟨line, op.render⟩]) ↔ ∀ s, .text s ∈ op.args → '\r' ∉ s.toList) := by
  obtain ⟨entry, found, named, supplies⟩ := validate_supplies valid
  have isNamed : isName op.name = true := named ▸ catalog_names entry (lookup_some found).1
  have readable := supplies_readable supplies (parsed_numbers_written parsed)
  have kept := statement_kept isNamed readable
  obtain ⟨again, reparsed, revalid⟩ := statement_accepted parsed valid other 1
  have translated : Script.translate op.render = .ok [⟨1, (respelled op).render⟩] := by
    rw [translate_ok_iff, kept]
    exact .cons ⟨rfl, again, respelled op, reparsed, revalid, rfl⟩ .nil
  refine ⟨(commands_eq_kept _).trans kept, ⟨again, reparsed, revalid⟩, translated, ?_⟩
  rw [translated, ← render_respelled_iff isNamed readable]
  simp

/-- A flag that is left out, and a text with a carriage return, a quote and an escaped line feed. -/
theorem statement_is_a_script_sort_data :
    Script.commands "sort_data(\"a\\r\\\"\\n\", true);" = [⟨1, "sort_data(\"a\\r\\\"\\n\", true);"⟩] ∧
    (∃ again, Script.parseCommand ⟨1, "sort_data(\"a\\r\\\"\\n\", true);"⟩ = .ok again ∧
      again.validate = .ok ⟨"sort_data", [.text "a\\r\"\n", .flag true]⟩) ∧
    Script.translate "sort_data(\"a\\r\\\"\\n\", true);" =
      .ok [⟨1, "sort_data(\"a\\\\r\\\"\\n\", true);"⟩] ∧
    ((∃ line, Script.translate "sort_data(\"a\\r\\\"\\n\", true);" =
        .ok [⟨line, "sort_data(\"a\\r\\\"\\n\", true);"⟩]) ↔
      ∀ s, .text s ∈ [Value.text "a\r\"\n", .flag true] → '\r' ∉ s.toList) := by
  let line := "sort_data(\"a\r\\\"\\n\")"
  have parsed : Script.parseCommand ⟨1, line⟩ = .ok ⟨"sort_data", [.str "a\r\"\n"], 1, line⟩ :=
    (parse_command_line_iff _ _).mpr ⟨rfl, rfl, (parse_line_ok_iff _ _ _).mpr ⟨[], .inl rfl, by decide +kernel⟩⟩
  have valid : Call.validate ⟨"sort_data", [.str "a\r\"\n"], 1, line⟩ =
      .ok ⟨"sort_data", [.text "a\r\"\n", .flag true]⟩ := by
    decide +kernel
  have rendered : Operation.render ⟨"sort_data", [.text "a\r\"\n", .flag true]⟩ =
      "sort_data(\"a\\r\\\"\\n\", true);" := by
    decide +kernel
  have again : (respelled ⟨"sort_data", [.text "a\r\"\n", .flag true]⟩).render =
      "sort_data(\"a\\\\r\\\"\\n\", true);" := by
    decide +kernel
  have script := statement_is_a_script parsed valid (by decide)
  rw [rendered, again] at script
  exact script

end Tabscript.Retranslation
