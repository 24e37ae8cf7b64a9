import Tabscript.Proofs.CallVerdicts
import Tabscript.Proofs.OffendingTokens
import Tabscript.Proofs.ScriptTranslation
import Tabscript.Proofs.TrailingBlanks

/-! Which lines are passed over is decided twice: by the script, which trims a line and looks
at its first character, and by the lexer, which skips blanks and stops at a number sign. Both
come down to what stands behind the blanks that a line begins with. So the reader of calls
never meets a line without an item of its own, and what it would say of one is never said. -/
namespace Tabscript.EmptyLines
open Token Call TokenStream WrittenTokens CallGrammar ScriptTranslation TrailingBlanks OffendingTokens
open CallVerdicts (wording_ne)

section Lines

variable {cs : List Char}

/-- Behind the blanks that it begins with, the line is over or a comment begins. -/
def Vacant (cs : List Char) : Prop :=
  cs.dropWhile Text.isBlank = [] ∨ ∃ comment, cs.dropWhile Text.isBlank = '#' :: comment

private theorem vacant_or_lead (cs : List Char) :
    Vacant cs ∨ ∃ c more, cs.dropWhile Text.isBlank = c :: more ∧ Text.isBlank c = false ∧ c ≠ '#' := by
  cases left : cs.dropWhile Text.isBlank with
  | nil => exact .inl (.inl left)
  | cons c more =>
    by_cases comment : c = '#'
    · exact .inl (.inr ⟨more, by rw [left, comment]⟩)
    · have unblank := begins_drop_while Text.isBlank cs
      rw [left] at unblank
      exact .inr ⟨c, more, rfl, unblank, comment⟩

/-- The lexer finds the end of the line first exactly on vacant lines. -/
theorem first_item_end_iff (cs : List Char) : (items cs).head? = some (.ok .eof) ↔ Vacant cs := by
  constructor
  · intro first
    rcases vacant_or_lead cs with vacant | ⟨c, more, left, _, uncommented⟩
    · exact vacant
    · have read : next cs = scanToken c more := by
        rw [next, left]
        exact if_neg uncommented
      cases scanned : scanToken c more with
      | error f =>
        simp [read, scanned] at first
      | ok found =>
        obtain ⟨t, rest⟩ := found
        have inside := scan_token_inside scanned
        simp [items_token (read.trans scanned) inside, inside] at first
  · intro vacant
    have ends : next cs = .ok (.eof, []) := by
      rcases vacant with nothing | ⟨comment, left⟩
      · rw [next, nothing]
      · rw [next, left]
        exact if_pos rfl
    simp [ends]

/-- A line is passed over exactly if it is vacant. -/
theorem passed_over_iff (line : String) : Script.holdsCommand line = false ↔ Vacant line.toList := by
  rw [Script.holdsCommand, Text.trim]
  constructor
  · intro passed
    rcases vacant_or_lead line.toList with vacant | ⟨c, more, left, unblank, uncommented⟩
    · exact vacant
    · obtain ⟨rest, trimmed⟩ := trim_end_lead unblank more
      rw [left, trimmed] at passed
      simp [uncommented] at passed
  · rintro (nothing | ⟨comment, left⟩)
    · rw [nothing]
      rfl
    · obtain ⟨rest, trimmed⟩ := trim_end_lead (c := '#') rfl comment
      rw [left, trimmed]
      rfl

theorem kept_iff (line : String) : HoldsCommand line ↔ (items line.toList).head? ≠ some (.ok .eof) := by
  rw [← holds_command_iff, Ne, first_item_end_iff, ← passed_over_iff, Bool.not_eq_false]

/-- A line with any item of its own begins with one. -/
private theorem first_item_inside {item : Except LexFault Token} (member : item ∈ items cs) (inside : item ≠ .ok .eof) :
    (items cs).head? ≠ some (.ok .eof) := by
  intro first
  obtain ⟨more, shape⟩ := List.head?_eq_some_iff.mp first
  have alone := items_after_end [] shape
  rw [shape, alone, List.mem_singleton] at member
  exact inside member

end Lines

section Commands

variable {script line : String} {command : Command} {index : Nat}

/-- The commands are the kept lines, each with its position counted from one. -/
theorem command_iff : command ∈ Script.commands script ↔
    HoldsCommand command.text ∧
      ∃ index, command.line = index + 1 ∧ (Text.lines script)[index]? = some command.text := by
  rw [commands_eq_kept, keptLines, List.mem_map]
  constructor
  · rintro ⟨⟨line, number⟩, member, rfl⟩
    obtain ⟨numbered, kept⟩ := List.mem_filter.mp member
    obtain ⟨counted, there⟩ := List.mk_mem_zipIdx_iff_le_and_getElem?_sub.mp numbered
    exact ⟨of_decide_eq_true kept, number - 1, (Nat.sub_add_cancel counted).symm, there⟩
  · rintro ⟨kept, index, number, there⟩
    refine ⟨(command.text, command.line), List.mem_filter.mpr ⟨?_, decide_eq_true kept⟩, rfl⟩
    rw [List.mk_mem_zipIdx_iff_le_and_getElem?_sub, number]
    exact ⟨Nat.le_add_left 1 index, there⟩

private theorem command_there (there : (Text.lines script)[index]? = some line) (kept : HoldsCommand line) :
    ⟨index + 1, line⟩ ∈ Script.commands script :=
  command_iff.mpr ⟨kept, index, rfl, there⟩

/-- A line is dropped exactly if it is not kept: no other line has its number. -/
theorem dropped_iff (there : (Text.lines script)[index]? = some line) :
    (∀ command ∈ Script.commands script, command.line ≠ index + 1) ↔ ¬ HoldsCommand line := by
  constructor
  · intro dropped kept
    exact dropped _ (command_there there kept) rfl
  · intro unkept command member number
    obtain ⟨kept, position, counted, found⟩ := command_iff.mp member
    have same : position = index := Nat.succ.inj (counted.symm.trans number)
    rw [same, there] at found
    cases found
    exact unkept kept

/-- No command is left out of a translation. -/
theorem command_becomes {statements : List Statement} (translated : Script.translate script = .ok statements)
    (member : command ∈ Script.commands script) : ∃ statement ∈ statements, statement.line = command.line := by
  rw [commands_eq_kept] at member
  obtain ⟨statement, inside, becomes⟩ := related_member (translate_ok_iff.mp translated).flip member
  exact ⟨statement, inside, becomes.1⟩

end Commands

section Wording

variable {t : Token} {reading : Reading} {command : Command}

private theorem described_end (same : t.describe = "end of line") : t = .eof := by
  cases t with
  | eof => rfl
  | ident text | number text | str text => exact absurd same (wording_ne (by decide +kernel))
  | lparen | rparen | comma | semicolon => exact absurd same (by decide +kernel)

/-- The end of the line is missed as a name in no state but the first. -/
private theorem refusal_end (said : (stepFault reading t).message = "expected an operation name, found end of line") :
    reading = .start ∧ t = .eof := by
  cases reading with
  | start =>
    have split : "expected an operation name, found end of line" =
        "expected an operation name, found " ++ "end of line" := by decide +kernel
    rw [split] at said
    exact ⟨rfl, described_end ((String.append_right_inj _).mp said)⟩
  | named | opened | due | word | filled => exact absurd said (wording_ne (by decide +kernel))
  | closed | ended =>
    have opens : (SyntaxFault.trailing t).message = "unexpected " ++ (t.describe ++ " after closing ')'") :=
      String.append_assoc
    exact absurd (opens.symm.trans said) (wording_ne (by decide +kernel))

/-- Only a line without an item of its own is said to end where a name is expected. -/
private theorem unnamed_first_item {number : Nat} {text : String} (rejected : Script.parseCommand command =
      .error (.invalidSyntax number text "expected an operation name, found end of line")) :
    (items command.text.toList).head? = some (.ok .eof) := by
  obtain ⟨tokens, verdict, shape, closes, _⟩ := items_shape command.text.toList
  obtain ⟨cause, failed, same⟩ := parse_command_error rejected
  obtain ⟨_, _, said⟩ := Fault.invalidSyntax.inj same
  rw [shape] at failed
  obtain ⟨before, item, after, stopped, split, reached, found⟩ := run_stops closes .start failed
  rw [shape, split]
  rcases found with ⟨f, rfl, rfl⟩ | ⟨t, rfl, refused⟩
  · exact absurd said.symm (opens_otherwise (lexical_opens f) (by decide +kernel))
  · rw [refused_with refused] at said
    obtain ⟨rfl, rfl⟩ := refusal_end said.symm
    -- In its first state the reader has taken nothing.
    have none : before = [] := reached_spelled reached
    rw [none]
    rfl

end Wording

/-- The lines that are passed over are those on which the lexer finds nothing. A line has no
command exactly if its first item is the end of the line. A line that has any other item, a
token or a fault, is a command with its number and text as written, and a translation has a
statement from it. No translation fails because a line ends where a name is expected. -/
theorem dropped_lines_are_the_empty_ones (script : String) :
    (∀ index line, (Text.lines script)[index]? = some line →
      ((∀ command ∈ Script.commands script, command.line ≠ index + 1) ↔
        (items line.toList).head? = some (.ok .eof)) ∧
      ∀ item ∈ items line.toList, item ≠ .ok .eof →
        ⟨index + 1, line⟩ ∈ Script.commands script ∧
        ∀ statements, Script.translate script = .ok statements →
          ∃ statement ∈ statements, statement.line = index + 1) ∧
    ∀ number text, Script.translate script ≠
      .error (.invalidSyntax number text "expected an operation name, found end of line") := by
  constructor
  · intro index line there
    constructor
    · rw [dropped_iff there, kept_iff, not_ne_iff]
    · intro item member inside
      have kept := (kept_iff line).mpr (first_item_inside member inside)
      have command := command_there there kept
      exact ⟨command, fun statements translated => command_becomes translated command⟩
  · intro number text failed
    rcases translate_error_iff.mp failed with ⟨command, failing⟩ | ⟨calls, call, _, failing⟩
    · obtain ⟨member, rejected⟩ := first_fault_member failing
      exact (kept_iff _).mp (kept_line_source member).2 (unnamed_first_item rejected)
    · cases misfit_stage (first_fault_member failing).2

end Tabscript.EmptyLines
