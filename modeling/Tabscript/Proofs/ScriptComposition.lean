import Tabscript.Proofs.ScriptTranslation
import Tabscript.Proofs.TrailingBlanks

/-! Scripts put one below the other. The last piece of a script is no ordinary line: it
keeps its carriage return, and counts for nothing if it is empty. Once another script
follows, it is an ordinary line. Neither difference reaches the statements, so a script
is translated part by part, and every line on its own. -/
namespace Tabscript.ScriptComposition
open Text TextLines TrailingBlanks CallGrammar ArgumentSlots ScriptTranslation

/-- The statement as it is numbered with so many more lines in front of it. -/
def moved (count : Nat) (statement : Statement) : Statement :=
  ⟨statement.line + count, statement.text⟩

/-- The command as it is numbered with so many more lines in front of it. -/
def movedCommand (count : Nat) (command : Command) : Command :=
  ⟨command.line + count, command.text⟩

section Pieces

theorem segments_joined (held first second : List Char) :
    segmentsFrom held (first ++ '\n' :: second) = segmentsFrom held first ++ segments second := by
  induction first generalizing held with
  | nil => simp [segmentsFrom, segments]
  | cons c more ih =>
    rw [List.cons_append, segmentsFrom, segmentsFrom]
    split
    · rw [ih, List.cons_append]
    · exact ih (c :: held)

theorem segments_length (held cs : List Char) : (segmentsFrom held cs).length = cs.count '\n' + 1 := by
  induction cs generalizing held with
  | nil => rfl
  | cons c more ih =>
    rw [segmentsFrom]
    split
    · rename_i feed
      rw [List.length_cons, ih, feed, List.count_cons_self]
    · rename_i other
      rw [ih, List.count_cons_of_ne other]

theorem segments_given (cs : List Char) : segments cs ≠ [] := by
  intro none
  have length := segments_length [] cs
  rw [← segments, none] at length
  simp at length

/-- Pieces that others follow are lines that a line feed ended. -/
theorem lines_joined (pieces : List (List Char)) {others : List (List Char)} (given : others ≠ []) :
    linesOfSegments (pieces ++ others) = pieces.map dropReturn ++ linesOfSegments others := by
  induction pieces with
  | nil => rfl
  | cons piece more ih =>
    obtain ⟨next, rest, split⟩ := List.exists_cons_of_ne_nil (List.append_ne_nil_of_right_ne_nil more given)
    rw [List.cons_append, List.map_cons, List.cons_append, ← ih, split, linesOfSegments]
    exact List.cons_ne_nil next rest

theorem drop_return_cases (cs : List Char) : dropReturn cs = cs ∨ cs = dropReturn cs ++ ['\r'] := by
  unfold dropReturn
  split
  · rename_i last
    exact .inr (List.dropLast_append_getLast? '\r' last).symm
  · exact .inl rfl

private theorem drop_return_items (cs : List Char) : Token.items (dropReturn cs) = Token.items cs := by
  rcases drop_return_cases cs with same | kept
  · rw [same]
  · have read := items_blank (b := '\r') rfl (dropReturn cs)
    rw [← kept] at read
    exact read.symm

private theorem drop_return_trim (cs : List Char) : trim (dropReturn cs) = trim cs := by
  rcases drop_return_cases cs with same | kept
  · rw [same]
  · have trimmed := trim_blank (b := '\r') rfl (dropReturn cs)
    rw [← kept] at trimmed
    exact trimmed.symm

end Pieces

section Commands

variable {lines : List String} {line : String}

@[simp] theorem commands_append (number : Nat) (lines more : List String) :
    Script.commandsFrom number (lines ++ more) =
      Script.commandsFrom number lines ++ Script.commandsFrom (number + lines.length) more := by
  induction lines generalizing number with
  | nil => rfl
  | cons line rest ih =>
    have tail := ih (number + 1)
    rw [Nat.add_right_comm] at tail
    rw [List.cons_append, Script.commandsFrom, Script.commandsFrom, List.length_cons, tail]
    split
    · rfl
    · rfl

theorem commands_moved (number count : Nat) (lines : List String) :
    Script.commandsFrom (number + count) lines = (Script.commandsFrom number lines).map (movedCommand count) := by
  induction lines generalizing number with
  | nil => rfl
  | cons line rest ih =>
    have tail := ih (number + 1)
    rw [Nat.add_right_comm] at tail
    rw [Script.commandsFrom, Script.commandsFrom, tail]
    split
    · rfl
    · rfl

private theorem commands_number (number : Nat) (lines : List String) :
    ∀ command ∈ Script.commandsFrom number lines, number ≤ command.line := by
  have shifted := commands_moved 0 number lines
  rw [Nat.zero_add] at shifted
  rw [shifted]
  intro command member
  obtain ⟨original, _, rfl⟩ := List.mem_map.mp member
  exact Nat.le_add_left number original.line

/-- The command with the number of a line, if there is one, is what the line holds. -/
theorem commands_at {place : Nat} (number : Nat) (found : lines[place]? = some line) :
    (Script.commandsFrom number lines).filter (fun command => command.line = number + place) =
      Script.commandsFrom (number + place) [line] := by
  induction lines generalizing number place with
  | nil => cases found
  | cons head rest ih =>
    rw [← List.singleton_append, commands_append, List.filter_append]
    have here : ∀ command ∈ Script.commandsFrom number [head], command.line = number := by
      intro command member
      rw [Script.commandsFrom] at member
      split at member
      · rw [List.mem_singleton.mp member]
      · cases member
    cases place with
    | zero =>
      cases found
      have all : (Script.commandsFrom number [line]).filter (fun command => command.line = number + 0) =
          Script.commandsFrom number [line] :=
        List.filter_eq_self.mpr fun command member => by simp [here command member]
      have none : (Script.commandsFrom (number + [line].length) rest).filter
          (fun command => command.line = number + 0) = [] := by
        apply List.filter_eq_nil_iff.mpr
        intro command member
        have later := commands_number _ _ command member
        simp only [List.length_singleton, decide_eq_true_eq] at later ⊢
        omega
      rw [all, none, List.append_nil]
      rfl
    | succ place =>
      have none : (Script.commandsFrom number [head]).filter
          (fun command => command.line = number + (place + 1)) = [] := by
        apply List.filter_eq_nil_iff.mpr
        intro command member
        have number := here command member
        simp only [decide_eq_true_eq]
        omega
      have later := ih (number + 1) found
      have place_eq : number + 1 + place = number + (place + 1) := by omega
      rw [place_eq] at later
      rw [none, List.nil_append]
      exact later

/-- Two commands of the same number that are read in the same way. -/
def ReadsAlike (command other : Command) : Prop :=
  command.line = other.line ∧ Call.parseLine command.text = Call.parseLine other.text

private theorem alike_single (number : Nat) {line other : List Char} (same : trim line = trim other)
    (read : Token.items line = Token.items other) :
    List.Forall₂ ReadsAlike (Script.commandsFrom number [String.ofList line])
      (Script.commandsFrom number [String.ofList other]) := by
  have holds : Script.holdsCommand (String.ofList line) = Script.holdsCommand (String.ofList other) := by
    rw [Script.holdsCommand, Script.holdsCommand, String.toList_ofList, String.toList_ofList, same]
  have parsed : Call.parseLine (String.ofList line) = Call.parseLine (String.ofList other) := by
    rw [Call.parseLine, Call.parseLine, String.toList_ofList, String.toList_ofList, read]
  simp only [Script.commandsFrom, holds]
  split
  · exact .cons ⟨rfl, parsed⟩ .nil
  · exact .nil

/-- It does not matter to the commands whether a line feed ends the last piece. -/
theorem commands_ended (number : Nat) (pieces : List (List Char)) :
    List.Forall₂ ReadsAlike (Script.commandsFrom number ((pieces.map dropReturn).map String.ofList))
      (Script.commandsFrom number ((linesOfSegments pieces).map String.ofList)) := by
  rcases List.eq_nil_or_concat pieces with rfl | ⟨front, last, rfl⟩
  · exact .nil
  · rw [List.concat_eq_append, lines_joined front (List.cons_ne_nil last []), List.map_append, List.map_append,
      List.map_append, commands_append, commands_append]
    refine List.rel_append (List.forall₂_same.mpr fun _ _ => ⟨rfl, rfl⟩) ?_
    cases empty : last.isEmpty with
    | true =>
      rw [List.isEmpty_iff.mp empty]
      exact .nil
    | false =>
      rw [linesOfSegments, empty]
      exact alike_single _ (drop_return_trim last) (drop_return_items last)

end Commands

section Statements

variable {commands others : List Command} {statements : List Statement}

private theorem renders_alike {number : Nat} {line other statement : String}
    (same : Call.parseLine line = Call.parseLine other) (renders : Renders ⟨number, line⟩ statement) :
    Renders ⟨number, other⟩ statement := by
  obtain ⟨call, op, parsed, valid, rfl⟩ := renders
  obtain ⟨_, _, read⟩ := (parse_command_line_iff _ _).mp parsed
  obtain ⟨entry, found, accepted, named, given⟩ := validate_ok_iff.mp valid
  exact ⟨⟨call.name, call.args, number, other⟩, op, (parse_command_line_iff _ _).mpr ⟨rfl, rfl, same ▸ read⟩,
    validate_ok_iff.mpr ⟨entry, found, accepted, named, given⟩, rfl⟩

theorem becomes_alike (alike : List.Forall₂ ReadsAlike commands others) :
    List.Forall₂ Becomes commands statements ↔ List.Forall₂ Becomes others statements := by
  have head {command other : Command} {statement : Statement} (same : ReadsAlike command other) :
      Becomes command statement ↔ Becomes other statement := by
    obtain ⟨number, line⟩ := command
    obtain ⟨_, text⟩ := other
    obtain ⟨rfl, read⟩ := same
    exact and_congr_right fun _ => ⟨renders_alike read, renders_alike read.symm⟩
  induction alike generalizing statements with
  | nil => rfl
  | cons same _ ih => simp only [List.forall₂_cons_left_iff, head same, ih]

theorem becomes_moved (count : Nat) :
    List.Forall₂ Becomes (commands.map (movedCommand count)) statements ↔
      ∃ own, List.Forall₂ Becomes commands own ∧ statements = own.map (moved count) := by
  have single (command : Command) (statement : Statement) : Becomes (movedCommand count command) statement ↔
      ∃ own, Becomes command own ∧ moved count own = statement := by
    constructor
    · rintro ⟨numbered, renders⟩
      refine ⟨⟨command.line, statement.text⟩, ⟨rfl, renders_anywhere _ renders⟩, ?_⟩
      rw [moved, ← show statement.line = command.line + count from numbered]
    · rintro ⟨own, ⟨numbered, renders⟩, rfl⟩
      exact ⟨congrArg (· + count) numbered, renders_anywhere _ renders⟩
  rw [List.forall₂_map_left_iff]
  simp only [single]
  rw [← pairwise_through]
  refine exists_congr fun own => and_congr_right fun _ => ?_
  rw [← List.forall₂_map_left_iff, List.forall₂_eq_eq_eq, eq_comm]

theorem becomes_append :
    List.Forall₂ Becomes (commands ++ others) statements ↔
      ∃ before after, List.Forall₂ Becomes commands before ∧ List.Forall₂ Becomes others after ∧
        statements = before ++ after := by
  constructor
  · intro becomes
    induction commands generalizing statements with
    | nil => exact ⟨[], statements, .nil, becomes, rfl⟩
    | cons command more ih =>
      obtain ⟨statement, rest, head, tail, rfl⟩ := List.forall₂_cons_left_iff.mp becomes
      obtain ⟨before, after, first, second, rfl⟩ := ih tail
      exact ⟨statement :: before, after, .cons head first, second, rfl⟩
  · rintro ⟨before, after, first, second, rfl⟩
    exact List.rel_append first second

theorem translate_commands_iff {script : String} :
    Script.translate script = .ok statements ↔ List.Forall₂ Becomes (Script.commands script) statements := by
  rw [translate_ok_iff, commands_eq_kept]

end Statements

/-- The commands of two scripts put one below the other. -/
theorem commands_joined (first second : String) :
    Script.commands (first ++ "\n" ++ second) =
      Script.commandsFrom 1 (((segments first.toList).map dropReturn).map String.ofList) ++
        (Script.commands second).map (movedCommand (first.toList.count '\n' + 1)) := by
  have split : segments (first ++ "\n" ++ second).toList = segments first.toList ++ segments second.toList := by
    rw [String.toList_append, String.toList_append, List.append_assoc]
    exact segments_joined [] first.toList second.toList
  have length : (((segments first.toList).map dropReturn).map String.ofList).length = first.toList.count '\n' + 1 := by
    rw [List.length_map, List.length_map]
    exact segments_length [] first.toList
  rw [Script.commands, lines, split, lines_joined _ (segments_given _), List.map_append, commands_append, length,
    commands_moved]
  rfl

/-- The commands of a line, taken as a script. -/
theorem commands_line {line : String} (clean : '\n' ∉ line.toList) :
    Script.commands line = Script.commandsFrom 1 [line] := by
  rw [Script.commands]
  by_cases given : line = ""
  · rw [given]
    rfl
  · rw [lines_single given clean]

/-- Translation is compositional. Two scripts, one below the other, translate exactly if
both of them do, to the statements of the first followed by those of the second, whose
numbers have moved by the lines of the first. Hence a line of a translated script becomes
what it becomes by itself, whatever the other lines are. -/
theorem translation_is_compositional :
    (∀ first second statements, Script.translate (first ++ "\n" ++ second) = .ok statements ↔
      ∃ before after, Script.translate first = .ok before ∧ Script.translate second = .ok after ∧
        statements = before ++ after.map (moved (first.toList.count '\n' + 1))) ∧
    (∀ script statements, Script.translate script = .ok statements →
      ∀ (place : Nat) (line : String), (Text.lines script)[place]? = some line →
        ∃ own, Script.translate line = .ok own ∧
          statements.filter (fun statement => statement.line = place + 1) = own.map (moved place)) := by
  constructor
  · intro first second statements
    have ended := commands_ended 1 (segments first.toList)
    rw [translate_commands_iff, commands_joined, becomes_append]
    simp only [becomes_moved, becomes_alike ended, translate_commands_iff]
    constructor
    · rintro ⟨before, _, head, ⟨after, tail, rfl⟩, rfl⟩
      exact ⟨before, after, head, tail, rfl⟩
    · rintro ⟨before, after, head, tail, rfl⟩
      exact ⟨before, _, head, ⟨after, tail, rfl⟩, rfl⟩
  · intro script statements translated place line found
    have becomes := translate_commands_iff.mp translated
    have own : List.Forall₂ Becomes ((Script.commands script).filter fun command => command.line = 1 + place)
        (statements.filter fun statement => statement.line = 1 + place) := by
      refine List.rel_filter (fun command statement related => ?_) becomes
      simp only [decide_eq_true_eq, related.1]
    have clean := line_without_feed (List.mem_of_getElem? found)
    rw [Script.commands, commands_at 1 found, commands_moved, ← commands_line clean, becomes_moved] at own
    obtain ⟨single, alone, same⟩ := own
    rw [Nat.add_comm] at same
    exact ⟨single, translate_commands_iff.mpr alone, same⟩

end Tabscript.ScriptComposition
