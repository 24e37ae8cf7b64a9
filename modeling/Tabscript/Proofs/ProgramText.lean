import Tabscript.Program
import Tabscript.Proofs.RenderedCalls
import Tabscript.Proofs.ScriptComposition

/-! The text of a generated program, and the statements that can be read off it.

A text of the script may hold line breaks and may spell the lines of the program itself. It
still cannot forge a line: no statement has a line break, because a literal escapes both of
them and nothing else that is written into a statement has any. The lines before the main
function do not depend on the script, so its first line is found by its text, and behind it
stands one line for each statement. -/
namespace Tabscript.ProgramText
open Text TextLines TokenStream ArgumentSlots StatementReader RenderedCalls ScriptTranslation ScriptComposition Program

/-- A text with neither a line feed nor a carriage return in it. -/
def Unbroken (s : String) : Prop :=
  ∀ c ∈ s.toList, c ≠ '\n' ∧ c ≠ '\r'

/-- Lines as one text, with a line feed behind each of them. -/
def ended (ls : List String) : String :=
  String.join (ls.map (· ++ "\n"))

/-- The lines before the main function. No script has a part in them. -/
def fixedLines : List String :=
  preamble ++ ["", "// Operation library"] ++ catalog.map Entry.declaration ++ [""] ++ describeData ++ [""]

/-- The first line of the main function. -/
def mainOpening : String := opened "int main()"

/-- The main function that has these statements. -/
def mainLines (texts : List String) : List String :=
  mainOpening :: (texts.map ("    " ++ ·) ++ ["    return 0;", '}'.toString])

/-- The statements of a program: what stands in its main function, without the indentation and
without the two lines that close it. -/
def statementTexts (source : String) : List String :=
  let body := ((lines source).dropWhile (· ≠ mainOpening)).tail
  body.dropLast.dropLast.map fun line => String.ofList (line.toList.drop 4)

section Breaks

variable {s t : String} {op : Operation}

theorem unbroken_append (first : Unbroken s) (second : Unbroken t) : Unbroken (s ++ t) := by
  intro c member
  rw [String.toList_append, List.mem_append] at member
  rcases member with front | back
  · exact first c front
  · exact second c back

theorem unbroken_intercalate {between : String} {pieces : List String} (separator : Unbroken between)
    (clean : ∀ piece ∈ pieces, Unbroken piece) : Unbroken (String.intercalate between pieces) := by
  induction pieces with
  | nil => exact fun c member => absurd member (by simp)
  | cons first more ih =>
    have head := clean first (by simp)
    have tail := ih fun piece member => clean piece (by simp [member])
    cases more with
    | nil => rwa [String.intercalate_singleton]
    | cons second rest =>
      rw [String.intercalate_cons_cons]
      apply unbroken_append _ tail
      exact unbroken_append head separator

/-- The characters of a literal text are checked by their codes. -/
theorem unbroken_of_codes {cs : List Char} (checked : (cs.all fun c => c.toNat != 10 && c.toNat != 13) = true) :
    Unbroken (String.ofList cs) := by
  intro c member
  rw [String.toList_ofList] at member
  have codes := List.all_eq_true.mp checked c member
  rw [Bool.and_eq_true, bne_iff_ne, bne_iff_ne] at codes
  exact ⟨fun feed => codes.1 (congrArg Char.toNat feed), fun ret => codes.2 (congrArg Char.toNat ret)⟩

/-- A kind of characters that has no line break among them. -/
private theorem kind_unbroken {kind : Char → Bool} {c : Char} (feed : kind '\n' = false) (ret : kind '\r' = false)
    (inside : kind c = true) : c ≠ '\n' ∧ c ≠ '\r' := by
  constructor
  · rintro rfl
    rw [feed] at inside
    cases inside
  · rintro rfl
    rw [ret] at inside
    cases inside

theorem unbroken_sign {c : Char} (other : c ≠ '\n' ∧ c ≠ '\r') : Unbroken c.toString := by
  intro d member
  rw [Char.toString, String.toList_singleton, List.mem_singleton] at member
  rw [member]
  exact other

private theorem escape_unbroken {c d : Char} (member : d ∈ escapeChar c) : d ≠ '\n' ∧ d ≠ '\r' := by
  unfold escapeChar at member
  iterate 5
    split at member
    · simp only [List.mem_cons, List.not_mem_nil, or_false] at member
      rcases member with rfl | rfl <;> decide
  cases List.mem_singleton.mp member
  exact ⟨‹_›, ‹_›⟩

/-- A literal escapes both kinds of line break. -/
theorem string_literal_unbroken (s : String) : Unbroken (stringLiteral s) := by
  intro c member
  rw [stringLiteral, String.toList_ofList, List.mem_cons, List.mem_append, List.mem_singleton] at member
  rcases member with rfl | escaped | rfl
  · decide
  · obtain ⟨d, _, inside⟩ := List.mem_flatMap.mp escaped
    exact escape_unbroken inside
  · decide

private theorem numeral_unbroken (numeral : NumberText s) : Unbroken s := by
  obtain ⟨first, more, spelled, starts, alphabet⟩ := numeral
  intro c member
  rw [spelled] at member
  rcases List.mem_cons.mp member with rfl | later
  · exact kind_unbroken rfl rfl starts
  · exact kind_unbroken rfl rfl (alphabet c later)

private theorem name_unbroken (named : isName s = true) : Unbroken s := by
  rw [isName, Bool.and_eq_true, List.all_eq_true] at named
  intro c member
  exact kind_unbroken rfl rfl (named.2 c member)

private theorem flag_unbroken (b : Bool) : Unbroken (boolText b) := by
  cases b with
  | true => exact unbroken_of_codes rfl
  | false => exact unbroken_of_codes rfl

private theorem member_unbroken {item : Literal} (readable : ReadableLiteral item) : Unbroken item.render := by
  cases item with
  | text s => exact string_literal_unbroken s
  | number s => exact numeral_unbroken readable
  | flag b => exact flag_unbroken b

theorem value_unbroken {value : Value} (readable : Readable value) : Unbroken value.render := by
  cases value with
  | text s => exact string_literal_unbroken s
  | number s => exact numeral_unbroken readable
  | flag b => exact flag_unbroken b
  | list items =>
    have members : ∀ piece ∈ items.map Literal.render, Unbroken piece := by
      rw [List.forall_mem_map]
      exact fun item inside => member_unbroken (readable item inside)
    rw [Value.render, braced]
    apply unbroken_append _ (unbroken_sign (by decide))
    apply unbroken_append (unbroken_sign (by decide))
    exact unbroken_intercalate (unbroken_of_codes rfl) members

theorem statement_unbroken (named : isName op.name = true) (readable : ∀ value ∈ op.args, Readable value) :
    Unbroken op.render := by
  have values : ∀ piece ∈ op.args.map Value.render, Unbroken piece := by
    rw [List.forall_mem_map]
    exact fun value inside => value_unbroken (readable value inside)
  apply unbroken_append _ (unbroken_of_codes rfl)
  apply unbroken_append _ (unbroken_intercalate (unbroken_of_codes rfl) values)
  exact unbroken_append (name_unbroken named) (unbroken_of_codes rfl)

/-- Whatever the texts of a script hold, its statements are single lines. -/
theorem translated_unbroken {script : String} {statements : List Statement}
    (translated : Script.translate script = .ok statements) : ∀ s ∈ statements, Unbroken s.text := by
  intro s member
  obtain ⟨command, _, _, call, op, parsed, valid, rendered⟩ :=
    related_member (translate_ok_iff.mp translated) member
  obtain ⟨entry, found, named, supplies⟩ := validate_supplies valid
  rw [rendered]
  apply statement_unbroken
  · rw [named]
    exact catalog_names entry (lookup_some found).1
  · exact supplies_readable supplies (parsed_numbers_written parsed)

end Breaks

section Lines

variable {line rest : String} {ls : List String} {texts : List String}

theorem drop_return_unbroken (clean : Unbroken line) : dropReturn line.toList = line.toList := by
  apply if_neg
  intro last
  exact (clean '\r' (List.mem_of_getLast? last)).2 rfl

/-- A line that a line feed ends is the first line of a text. -/
theorem lines_cons (clean : Unbroken line) : lines (line ++ "\n" ++ rest) = line :: lines rest := by
  have feedless : '\n' ∉ line.toList := fun member => (clean '\n' member).1 rfl
  have split : segments (line ++ "\n" ++ rest).toList = [line.toList] ++ segments rest.toList := by
    rw [String.toList_append, String.toList_append, List.append_assoc]
    refine (segments_joined [] line.toList rest.toList).trans ?_
    rw [segments_single feedless]
    rfl
  rw [lines, split, lines_joined _ (segments_given _), List.map_append, List.map_singleton, List.map_singleton,
    drop_return_unbroken clean, String.ofList_toList]
  rfl

@[simp] theorem ended_cons (line : String) (ls : List String) : ended (line :: ls) = line ++ "\n" ++ ended ls := by
  rw [ended, List.map_cons, String.join_cons]
  rfl

@[simp] theorem ended_append (ls others : List String) : ended (ls ++ others) = ended ls ++ ended others := by
  rw [ended, List.map_append, String.join_append]
  rfl

theorem lines_ended (clean : ∀ line ∈ ls, Unbroken line) : lines (ended ls) = ls := by
  induction ls with
  | nil => rfl
  | cons line more ih =>
    rw [ended_cons, lines_cons (clean line (by simp)), ih fun other member => clean other (by simp [member])]

private theorem join_ended (given : ls ≠ []) : joinLines ls ++ "\n" = ended ls := by
  induction ls with
  | nil => exact absurd rfl given
  | cons line more ih =>
    rw [ended_cons]
    cases more with
    | nil =>
      rw [joinLines, String.intercalate_singleton, ended, List.map_nil, String.join_nil, String.append_empty]
    | cons second others =>
      rw [← ih (List.cons_ne_nil _ _), joinLines, String.intercalate_cons_cons, String.append_assoc]
      rfl

private theorem main_ended (statements : List Statement) :
    mainFunction statements = ended (mainLines (statements.map Statement.text)) := by
  have body : String.join (statements.map fun s => "    " ++ s.text ++ "\n") =
      ended ((statements.map Statement.text).map ("    " ++ ·)) := by
    rw [ended, List.map_map, List.map_map]
    rfl
  have closing : ended ["    return 0;", '}'.toString] = "    return 0;\n" ++ '}'.toString ++ "\n" := by
    rw [ended_cons, ended_cons, ← String.append_assoc]
    exact String.append_empty
  delta mainFunction
  rw [body, mainLines, ended_cons, ended_append, closing]
  simp only [String.append_assoc, mainOpening]

/-- A program is a sequence of lines, each with a line feed behind it. -/
theorem source_ended (statements : List Statement) :
    (assemble statements).source = ended (fixedLines ++ mainLines (statements.map Statement.text)) := by
  have blank : ended [""] = "\n" := rfl
  have twice : "\n\n" = "\n" ++ "\n" := rfl
  have head : header ++ "\n" = ended (preamble ++ ["", "// Operation library"] ++ catalog.map Entry.declaration) :=
    join_ended (List.append_ne_nil_of_left_ne_nil (List.append_ne_nil_of_right_ne_nil _ (List.cons_ne_nil _ _)) _)
  have body : joinLines describeData ++ "\n" = ended describeData := join_ended (List.cons_ne_nil _ _)
  rw [fixedLines, ended_append, ended_append, ended_append, ended_append, ← head, ← body, ← main_ended, blank,
    assemble, twice]
  simp only [String.append_assoc]

/-- A line that has no break and is not the first line of the main function. -/
def Inert (line : String) : Prop :=
  Unbroken line ∧ line ≠ mainOpening

/-- The first character tells a line from the one that opens the main function. -/
theorem inert_of_head (clean : Unbroken line) (apart : line.toList.head? ≠ some 'i') : Inert line := by
  refine ⟨clean, ?_⟩
  rintro rfl
  exact apart (by decide +kernel)

theorem inert_of_codes {cs : List Char} (checked : (cs.all fun c => c.toNat != 10 && c.toNat != 13) = true)
    (apart : (cs.head? != some 'i') = true) : Inert (String.ofList cs) := by
  apply inert_of_head (unbroken_of_codes checked)
  rw [String.toList_ofList]
  exact bne_iff_ne.mp apart

/-- Lines without a break in any of them. -/
def Clean (ls : List String) : Prop :=
  ∀ line ∈ ls, Unbroken line

theorem clean_nil : Clean [] :=
  List.forall_mem_nil _

theorem clean_cons (first : Unbroken line) (rest : Clean ls) : Clean (line :: ls) :=
  List.forall_mem_cons.mpr ⟨first, rest⟩

theorem clean_append {others : List String} (first : Clean ls) (rest : Clean others) : Clean (ls ++ others) :=
  List.forall_mem_append.mpr ⟨first, rest⟩

theorem unbroken_opened {head : String} (clean : Unbroken head) : Unbroken (opened head) :=
  unbroken_append (unbroken_append clean (unbroken_of_codes rfl)) (unbroken_sign (by decide))

private theorem indent_inert (clean : Clean ls) : ∀ line ∈ indent ls, Inert line := by
  intro line member
  obtain ⟨inner, inside, rfl⟩ := List.mem_map.mp member
  split
  · rename_i empty
    rw [String.isEmpty_iff.mp empty]
    exact inert_of_codes rfl rfl
  · refine inert_of_head (unbroken_append (unbroken_of_codes rfl) (clean inner inside)) ?_
    simp

private theorem clean_indent (clean : Clean ls) : Clean (indent ls) :=
  fun line member => (indent_inert clean line member).1

private theorem clean_branches {parts : List (String × List String)} {lead : String} (leading : Unbroken lead)
    (inner : ∀ part ∈ parts, Unbroken part.1 ∧ Clean part.2) : Clean (branches lead parts) := by
  induction parts generalizing lead with
  | nil => exact clean_cons (unbroken_sign (by decide)) clean_nil
  | cons part more ih =>
    obtain ⟨⟨head, body⟩, others⟩ := List.forall_mem_cons.mp inner
    refine clean_cons (unbroken_opened (unbroken_append leading head)) (clean_append (clean_indent body) ?_)
    exact ih (unbroken_append (unbroken_sign (by decide)) (unbroken_of_codes rfl)) others

private theorem clean_block {head : String} (clean : Unbroken head) (body : Clean ls) : Clean (block head ls) :=
  clean_branches (unbroken_of_codes rfl) (List.forall_mem_singleton.mpr ⟨clean, body⟩)

private theorem clean_either {head other : String} {others : List String} (clean : Unbroken head) (body : Clean ls)
    (clean' : Unbroken other) (body' : Clean others) : Clean (branches "" [(head, ls), (other, others)]) :=
  clean_branches (unbroken_of_codes rfl)
    (List.forall_mem_cons.mpr ⟨⟨clean, body⟩, List.forall_mem_singleton.mpr ⟨clean', body'⟩⟩)

theorem column_clean : Clean describeColumn := by
  unfold describeColumn
  -- Only the heads and the lines themselves are left to look at.
  repeat' with_reducible first
    | exact clean_nil
    | refine clean_append ?_ ?_
    | refine clean_block ?_ ?_
    | refine clean_either ?_ ?_ ?_ ?_
    | refine clean_cons ?_ ?_
  all_goals exact unbroken_of_codes rfl

theorem describe_inert : ∀ line ∈ describeData, Inert line := by
  have opens : Inert (opened ("" ++ "void describe_data()")) :=
    inert_of_head (unbroken_opened (unbroken_append (unbroken_of_codes rfl) (unbroken_of_codes rfl)))
      (by decide +kernel)
  have closes : Inert '}'.toString := inert_of_head (unbroken_sign (by decide)) (by decide +kernel)
  refine List.forall_mem_cons.mpr ⟨opens, List.forall_mem_append.mpr ⟨indent_inert ?_, ?_⟩⟩
  · repeat' with_reducible first
      | exact clean_nil
      | exact column_clean
      | refine clean_append ?_ ?_
      | refine clean_block ?_ ?_
      | refine clean_cons ?_ ?_
    all_goals exact unbroken_of_codes rfl
  · exact List.forall_mem_singleton.mpr closes

theorem preamble_inert : ∀ line ∈ preamble, Inert line := by
  have opens : Inert (opened "struct CSVRow") :=
    inert_of_head (unbroken_opened (unbroken_of_codes rfl)) (by decide +kernel)
  have closes : Inert ('}'.toString ++ ";") :=
    inert_of_head (unbroken_append (unbroken_sign (by decide)) (unbroken_of_codes rfl)) (by decide +kernel)
  refine List.forall_mem_append.mpr ⟨List.forall_mem_append.mpr ⟨?_, ?_⟩, ?_⟩
  · repeat refine List.forall_mem_cons.mpr ⟨inert_of_codes rfl rfl, ?_⟩
    exact List.forall_mem_nil _
  · refine List.forall_mem_cons.mpr ⟨opens, List.forall_mem_cons.mpr ⟨inert_of_codes rfl rfl, ?_⟩⟩
    exact List.forall_mem_singleton.mpr closes
  · repeat refine List.forall_mem_cons.mpr ⟨inert_of_codes rfl rfl, ?_⟩
    exact List.forall_mem_nil _

theorem catalog_unbroken : ∀ entry ∈ catalog, Unbroken entry.name ∧ ∀ p ∈ entry.params, Unbroken p.name := by
  unfold catalog
  repeat
    refine List.forall_mem_cons.mpr ⟨⟨unbroken_of_codes rfl, ?_⟩, ?_⟩
    · repeat refine List.forall_mem_cons.mpr ⟨unbroken_of_codes rfl, ?_⟩
      exact List.forall_mem_nil _
  exact List.forall_mem_nil _

private theorem param_unbroken {p : Param} (named : Unbroken p.name) : Unbroken (Entry.declareParam p) := by
  unfold Entry.declareParam
  split
  · exact unbroken_append (unbroken_of_codes rfl) named
  · exact unbroken_append (unbroken_of_codes rfl) named
  · exact unbroken_append (unbroken_of_codes rfl) named
  · rename_i default _
    have spelled : Unbroken (if default then "true" else "false") := flag_unbroken default
    apply unbroken_append _ spelled
    apply unbroken_append _ (unbroken_of_codes rfl)
    exact unbroken_append (unbroken_of_codes rfl) named
  · exact unbroken_append (unbroken_of_codes rfl) named

private theorem declaration_inert {entry : Entry} (listed : entry ∈ catalog) : Inert entry.declaration := by
  obtain ⟨named, params⟩ := catalog_unbroken entry listed
  have declared : ∀ piece ∈ entry.params.map Entry.declareParam, Unbroken piece := by
    rw [List.forall_mem_map]
    exact fun p inside => param_unbroken (params p inside)
  apply inert_of_head
  · apply unbroken_append _ (unbroken_of_codes rfl)
    apply unbroken_append _ (unbroken_intercalate (unbroken_of_codes rfl) declared)
    apply unbroken_append _ (unbroken_of_codes rfl)
    exact unbroken_append (unbroken_of_codes rfl) named
  · have first : entry.declaration.toList.head? = some 'v' := by simp [Entry.declaration]
    rw [first]
    decide

/-- Nothing before the main function is broken or looks like its first line. -/
theorem fixed_inert : ∀ line ∈ fixedLines, Inert line := by
  have blank : Inert "" := inert_of_codes rfl rfl
  intro line member
  simp only [fixedLines, List.mem_append, List.mem_cons, List.not_mem_nil, or_false, List.mem_map] at member
  rcases member with ((((inside | rfl | rfl) | ⟨entry, listed, rfl⟩) | rfl) | inside) | rfl
  · exact preamble_inert line inside
  · exact blank
  · exact inert_of_codes rfl rfl
  · exact declaration_inert listed
  · exact blank
  · exact describe_inert line inside
  · exact blank

theorem main_unbroken (clean : ∀ text ∈ texts, Unbroken text) : ∀ line ∈ mainLines texts, Unbroken line := by
  intro line member
  simp only [mainLines, List.mem_append, List.mem_cons, List.not_mem_nil, or_false, List.mem_map] at member
  rcases member with rfl | ⟨text, given, rfl⟩ | rfl | rfl
  · exact unbroken_opened (unbroken_of_codes rfl)
  · exact unbroken_append (unbroken_of_codes rfl) (clean text given)
  · exact unbroken_of_codes rfl
  · exact unbroken_sign (by decide)

theorem source_lines {statements : List Statement} (clean : ∀ s ∈ statements, Unbroken s.text) :
    lines (assemble statements).source = fixedLines ++ mainLines (statements.map Statement.text) := by
  rw [source_ended]
  apply lines_ended
  intro line member
  rcases List.mem_append.mp member with fixed | main
  · exact (fixed_inert line fixed).1
  · refine main_unbroken ?_ line main
    rw [List.forall_mem_map]
    exact clean

theorem before_opening (texts : List String) :
    (fixedLines ++ mainLines texts).takeWhile (· ≠ mainOpening) = fixedLines ∧
      (fixedLines ++ mainLines texts).dropWhile (· ≠ mainOpening) = mainLines texts := by
  have other : ∀ line ∈ fixedLines, decide (line ≠ mainOpening) = true := by
    intro line member
    exact decide_eq_true (fixed_inert line member).2
  rw [List.takeWhile_append_of_pos other, List.dropWhile_append_of_pos other, mainLines]
  simp

theorem main_texts (texts : List String) :
    ((mainLines texts).tail.dropLast.dropLast.map fun line => String.ofList (line.toList.drop 4)) = texts := by
  have closing : (texts.map ("    " ++ ·) ++ ["    return 0;", '}'.toString]).dropLast.dropLast =
      texts.map ("    " ++ ·) := by
    rw [List.append_cons, List.dropLast_concat, List.dropLast_concat]
  have indented (text : String) : String.ofList (("    " ++ text).toList.drop 4) = text := by
    rw [String.toList_append]
    exact String.ofList_toList
  rw [mainLines, List.tail_cons, closing, List.map_map]
  exact (List.map_congr_left fun text _ => indented text).trans (List.map_id texts)

theorem source_texts {statements : List Statement} (clean : ∀ s ∈ statements, Unbroken s.text) :
    statementTexts (assemble statements).source = statements.map Statement.text := by
  rw [statementTexts, source_lines clean, (before_opening _).2]
  exact main_texts _

end Lines

/-- The generated program determines the statements. No statement has a line break. The source is
the header and the generated operation, with blank lines between and behind them, and then, from
the first line that opens the main function, one line for each statement in order between that
line and the two that close the function; no other line is added. So the statements are read back
from the source, and two scripts have the same source exactly if they have the same statements. -/
theorem program_determines_statements {script other : String} {statements others : List Statement}
    (translated : Script.translate script = .ok statements) (otherwise : Script.translate other = .ok others) :
    (∀ s ∈ statements, '\n' ∉ s.text.toList ∧ '\r' ∉ s.text.toList) ∧
    (assemble statements).source = header ++ "\n\n" ++ joinLines describeData ++ "\n\n" ++
      ended (mainLines (statements.map Statement.text)) ∧
    (lines (assemble statements).source).takeWhile (· ≠ mainOpening) = fixedLines ∧
    (lines (assemble statements).source).dropWhile (· ≠ mainOpening) = mainLines (statements.map Statement.text) ∧
    (assemble statements).statementCount = statements.length ∧
    statementTexts (assemble statements).source = statements.map Statement.text ∧
    ((assemble statements).source = (assemble others).source ↔
      statements.map Statement.text = others.map Statement.text) := by
  have clean := translated_unbroken translated
  have read := source_texts clean
  refine ⟨?_, ?_, ?_, ?_, rfl, read, ?_⟩
  · intro s member
    exact ⟨fun feed => (clean s member _ feed).1 rfl, fun ret => (clean s member _ ret).2 rfl⟩
  · rw [← main_ended]
    rfl
  · rw [source_lines clean]
    exact (before_opening _).1
  · rw [source_lines clean]
    exact (before_opening _).2
  · constructor
    · intro same
      rw [← read, same, source_texts (translated_unbroken otherwise)]
    · intro same
      rw [source_ended, source_ended, same]

/-- A statement whose text spells the first line of the main function between two line feeds, and
one whose text holds a carriage return. -/
def forged : List Statement :=
  [⟨1, "print(\"\\n" ++ mainOpening ++ "\\n\");"⟩, ⟨3, "print(\"a\\rb\");"⟩]

/-- The statements of a script with such texts, against those of a script of one statement. -/
theorem program_determines_statements_forged :
    (∀ s ∈ forged, '\n' ∉ s.text.toList ∧ '\r' ∉ s.text.toList) ∧
    (lines (assemble forged).source).dropWhile (· ≠ mainOpening) =
      [mainOpening, "    print(\"\\n" ++ mainOpening ++ "\\n\");", "    print(\"a\\rb\");", "    return 0;",
        '}'.toString] ∧
    (assemble forged).source ≠ (assemble [⟨1, "predict();"⟩]).source := by
  have translated : Script.translate ("print(\"\\n" ++ mainOpening ++ "\\n\")\r\n\nprint(\"a\rb\");") = .ok forged := by
    decide +kernel
  have otherwise : Script.translate "predict()" = .ok [⟨1, "predict();"⟩] := by decide +kernel
  obtain ⟨clean, _, _, main, _, _, same⟩ := program_determines_statements translated otherwise
  refine ⟨clean, main, ?_⟩
  rw [ne_eq, same]
  decide

end Tabscript.ProgramText
