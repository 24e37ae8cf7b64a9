import Mathlib.Data.List.Forall2
import Tabscript.Proofs.ArgumentSlots
import Tabscript.Proofs.CallGrammar
import Tabscript.Proofs.TextLines

/-! Translation of whole scripts. The lines that hold a command are picked out of
the numbered lines, so that no number depends on what was passed over. Reading and
checking are two passes, each of which stops at its first fault; hence a line that
cannot be read is reported even if a line before it fails the check. -/
namespace Tabscript.ScriptTranslation
open ArgumentSlots CallGrammar TextLines

section FailFast

variable {α β γ ε : Type} {f : α → Except ε β} {xs : List α} {ys : List β} {x : α} {e : ε}

/-- The first element at which a pass fails, with its fault. -/
def FirstFault (f : α → Except ε β) (xs : List α) (x : α) (e : ε) : Prop :=
  ∃ before after, xs = before ++ x :: after ∧ (∀ y ∈ before, ∃ b, f y = .ok b) ∧ f x = .error e

@[simp] theorem pass_cons (more : List α) :
    (x :: more).mapM f = match f x with
      | .error e => .error e
      | .ok b => (more.mapM f).map (b :: ·) := by
  rw [List.mapM_cons]
  cases f x with
  | error e => rfl
  | ok b => cases more.mapM f <;> rfl

/-- A pass succeeds exactly if it does so at every element, and then keeps their order. -/
theorem pass_ok_iff : xs.mapM f = .ok ys ↔ List.Forall₂ (fun x b => f x = .ok b) xs ys := by
  induction xs generalizing ys with
  | nil => simp [pure, Except.pure, eq_comm]
  | cons x more ih =>
    rw [pass_cons, List.forall₂_cons_left_iff]
    constructor
    · intro ran
      split at ran
      · cases ran
      · rename_i b head
        cases tail : more.mapM f with
        | error e => rw [tail] at ran; cases ran
        | ok others =>
          rw [tail] at ran
          cases ran
          exact ⟨b, others, head, ih.mp tail, rfl⟩
    · rintro ⟨b, others, head, tail, rfl⟩
      simp [head, ih.mpr tail, Except.map]

@[simp] theorem first_fault_cons {y : α} {more : List α} (passed : ∃ b, f y = .ok b) :
    FirstFault f (y :: more) x e ↔ FirstFault f more x e := by
  constructor
  · rintro ⟨before, after, split, clean, fails⟩
    cases before with
    | nil =>
      cases split
      obtain ⟨b, ran⟩ := passed
      rw [fails] at ran
      cases ran
    | cons first before =>
      cases split
      exact ⟨before, after, rfl, fun z member => clean z (by simp [member]), fails⟩
  · rintro ⟨before, after, rfl, clean, fails⟩
    refine ⟨y :: before, after, rfl, ?_, fails⟩
    intro z member
    rcases List.mem_cons.mp member with rfl | later
    · exact passed
    · exact clean z later

private theorem first_fault_head {y : α} {more : List α} {found : ε} (fails : f y = .error found) :
    FirstFault f (y :: more) x e ↔ x = y ∧ e = found := by
  constructor
  · rintro ⟨before, after, split, clean, failing⟩
    cases before with
    | nil =>
      cases split
      rw [fails] at failing
      cases failing
      exact ⟨rfl, rfl⟩
    | cons first before =>
      cases split
      obtain ⟨b, ran⟩ := clean y (by simp)
      rw [fails] at ran
      cases ran
  · rintro ⟨rfl, rfl⟩
    exact ⟨[], more, rfl, by simp, fails⟩

/-- A pass fails exactly with the fault of the first element that fails. -/
theorem pass_error_iff : xs.mapM f = .error e ↔ ∃ x, FirstFault f xs x e := by
  induction xs with
  | nil => simp [pure, Except.pure, FirstFault]
  | cons y more ih =>
    rw [pass_cons]
    cases head : f y with
    | error found => simp [first_fault_head head, eq_comm]
    | ok b =>
      simp only [first_fault_cons ⟨b, head⟩, ← ih]
      cases more.mapM f <;> simp [Except.map]

theorem first_fault_member (failing : FirstFault f xs x e) : x ∈ xs ∧ f x = .error e := by
  obtain ⟨before, after, rfl, _, fails⟩ := failing
  exact ⟨by simp, fails⟩

/-- What is done to the results of a pass does not move its first fault. -/
private theorem first_fault_map (g : α → β → γ) :
    FirstFault (fun x => (f x).map (g x)) xs x e ↔ FirstFault f xs x e := by
  have fails (y : α) (found : ε) : (f y).map (g y) = .error found ↔ f y = .error found := by
    cases f y <;> simp [Except.map]
  have passes (y : α) : (∃ c, (f y).map (g y) = .ok c) ↔ ∃ b, f y = .ok b := by
    cases f y <;> simp [Except.map]
  simp only [FirstFault, fails, passes]

end FailFast

theorem parse_eq_pass (commands : List Command) : Script.parse commands = commands.mapM Script.parseCommand := by
  induction commands with
  | nil => rfl
  | cons command more ih =>
    rw [Script.parse, pass_cons, ih]
    cases Script.parseCommand command <;> rfl

theorem validate_eq_pass (calls : List Call) : Script.validate calls = calls.mapM Script.statement := by
  induction calls with
  | nil => rfl
  | cons call more ih =>
    rw [Script.validate, pass_cons, ih]
    cases Script.statement call <;> rfl

/-- A line that holds a command: without the blanks around it, it is not empty and does not begin with a number
sign. -/
def HoldsCommand (line : String) : Prop :=
  Text.trimmed line ≠ "" ∧ (Text.trimmed line).toList.head? ≠ some '#'

instance : DecidablePred HoldsCommand :=
  fun _ => inferInstanceAs (Decidable (_ ∧ _))

/-- The lines of a script that hold a command, with their positions counted from one. -/
def keptLines (script : String) : List Command :=
  (((Text.lines script).zipIdx 1).filter fun numbered => HoldsCommand numbered.1).map
    fun numbered => ⟨numbered.2, numbered.1⟩

theorem holds_command_iff (line : String) : Script.holdsCommand line = true ↔ HoldsCommand line := by
  unfold Script.holdsCommand HoldsCommand Text.trimmed
  cases Text.trim line.toList with
  | nil => simp
  | cons c more => simp

/-- Passing a line over shifts no number. -/
theorem commands_eq_kept (script : String) : Script.commands script = keptLines script := by
  have numbered (number : Nat) (lines : List String) : Script.commandsFrom number lines =
      ((lines.zipIdx number).filter fun p => HoldsCommand p.1).map fun p => ⟨p.2, p.1⟩ := by
    induction lines generalizing number with
    | nil => rfl
    | cons line more ih =>
      by_cases kept : HoldsCommand line
      · simp [Script.commandsFrom, (holds_command_iff line).mpr kept, kept, ih]
      · have passed : Script.holdsCommand line = false :=
          Bool.eq_false_iff.mpr fun holds => kept ((holds_command_iff line).mp holds)
        simp [Script.commandsFrom, passed, kept, ih]
  exact numbered 1 (Text.lines script)

theorem kept_lines_increasing (script : String) :
    (keptLines script).Pairwise fun first second => first.line < second.line := by
  have positions : ((Text.lines script).zipIdx 1).Pairwise fun first second => first.2 < second.2 := by
    rw [← List.pairwise_map (f := Prod.snd) (R := (· < ·)), List.zipIdx_map_snd]
    exact List.pairwise_lt_range'
  exact List.pairwise_map.mpr (positions.filter _)

/-- The line that a fault points at, by its number and its text. -/
def faultLine : Fault → Option (Nat × String)
  | .invalidSyntax line text _ => some (line, text)
  | .unknownFunction line text _ => some (line, text)
  | .wrongArity line text _ _ _ => some (line, text)
  | .invalidArgument line text _ _ _ _ => some (line, text)
  | _ => none

/-- How a line is quoted in a message. -/
def quotedLine (line : Nat) (text : String) : String :=
  "line " ++ toString line ++ " \"" ++ text ++ "\""

private theorem at_line_eq (line : Nat) (text : String) :
    Fault.atLine line text = "Error parsing " ++ quotedLine line text ++ ": " := by
  unfold Fault.atLine quotedLine
  generalize toString line = number
  apply String.toList_inj.mp
  simp

/-- The message of a fault that points at a line quotes the line. -/
theorem message_quotes_line {fault : Fault} {line : Nat} {text : String}
    (points : faultLine fault = some (line, text)) :
    ∃ before after, fault.message = before ++ quotedLine line text ++ after := by
  have opened : ∃ rest, fault.message = Fault.atLine line text ++ rest := by
    cases fault with
    | invalidSyntax _ _ reason =>
      cases points
      exact ⟨"invalid syntax: " ++ reason, String.append_assoc⟩
    | unknownFunction _ _ name =>
      cases points
      exact ⟨"unknown function: " ++ name, String.append_assoc⟩
    | wrongArity _ _ name expected got =>
      cases points
      refine ⟨name ++ " expects " ++ expected.describe ++ ", got " ++ toString got, ?_⟩
      change Fault.atLine line text ++ name ++ " expects " ++ expected.describe ++ ", got " ++ toString got = _
      simp only [String.append_assoc]
    | invalidArgument _ _ name position param reason =>
      cases points
      refine ⟨name ++ " argument " ++ toString position ++ " (" ++ param ++ "): " ++ reason, ?_⟩
      change Fault.atLine line text ++ name ++ " argument " ++ toString position ++ " (" ++ param ++ "): " ++ reason = _
      simp only [String.append_assoc]
    | compilation | execution | runtimeDiagnostic | timeout | workspace => cases points
  obtain ⟨rest, message⟩ := opened
  refine ⟨"Error parsing ", ": " ++ rest, ?_⟩
  rw [message, at_line_eq, String.append_assoc, String.append_assoc]

variable {command : Command} {call : Call} {op : Operation} {fault : Fault} {script : String}

theorem parse_command_fault (failed : Script.parseCommand command = .error fault) :
    ∃ reason, fault = .invalidSyntax command.line command.text reason := by
  unfold Script.parseCommand at failed
  split at failed
  · cases failed
  · cases failed
    exact ⟨_, rfl⟩

theorem validate_fault (failed : call.validate = .error fault) : faultLine fault = some (call.line, call.source) := by
  unfold Call.validate at failed
  split at failed
  · cases failed; rfl
  · split at failed
    · split at failed
      · cases failed
      · cases failed; rfl
    · cases failed; rfl

theorem misfit_stage (failed : call.validate = .error fault) : fault.stage = .validating := by
  unfold Call.validate at failed
  split at failed
  · cases failed; rfl
  · split at failed
    · split at failed
      · cases failed
      · cases failed; rfl
    · cases failed; rfl

/-- The text that the line of a command becomes, by itself. -/
def Renders (command : Command) (text : String) : Prop :=
  ∃ call op, Script.parseCommand command = .ok call ∧ call.validate = .ok op ∧ text = op.render

theorem renders_anywhere {line : Nat} {text statement : String} (number : Nat)
    (renders : Renders ⟨line, text⟩ statement) : Renders ⟨number, text⟩ statement := by
  obtain ⟨call, op, parsed, valid, rfl⟩ := renders
  obtain ⟨_, _, read⟩ := (parse_command_line_iff _ _).mp parsed
  obtain ⟨entry, found, accepted, named, given⟩ := validate_ok_iff.mp valid
  exact ⟨⟨call.name, call.args, number, text⟩, op, (parse_command_line_iff _ _).mpr ⟨rfl, rfl, read⟩,
    validate_ok_iff.mpr ⟨entry, found, accepted, named, given⟩, rfl⟩

/-- The calls that commands are read as, one for each. -/
def Parsed (commands : List Command) (calls : List Call) : Prop :=
  List.Forall₂ (fun command call => Script.parseCommand command = .ok call) commands calls

/-- The statement that a command becomes carries its number and the text of its own line. -/
def Becomes (command : Command) (statement : Statement) : Prop :=
  statement.line = command.line ∧ Renders command statement.text

theorem statement_fault_iff {calls : List Call} :
    FirstFault Script.statement calls call fault ↔ FirstFault Call.validate calls call fault :=
  first_fault_map (f := Call.validate) fun call op => Statement.mk call.line op.render

theorem becomes_iff {statement : Statement} :
    (∃ call, Script.parseCommand command = .ok call ∧ Script.statement call = .ok statement) ↔
      Becomes command statement := by
  constructor
  · rintro ⟨call, parsed, rendered⟩
    cases valid : call.validate with
    | error fault => rw [Script.statement, valid] at rendered; cases rendered
    | ok op =>
      rw [Script.statement, valid] at rendered
      cases rendered
      exact ⟨((parse_command_line_iff _ _).mp parsed).1, call, op, parsed, valid, rfl⟩
  · rintro ⟨numbered, call, op, parsed, valid, rendered⟩
    refine ⟨call, parsed, ?_⟩
    rw [Script.statement, valid, Except.map, ((parse_command_line_iff _ _).mp parsed).1, ← numbered, ← rendered]

theorem pairwise_through {α β γ : Type} {R : α → β → Prop} {S : β → γ → Prop} {xs : List α} {zs : List γ} :
    (∃ ys, List.Forall₂ R xs ys ∧ List.Forall₂ S ys zs) ↔ List.Forall₂ (fun x z => ∃ y, R x y ∧ S y z) xs zs := by
  constructor
  · rintro ⟨ys, first, second⟩
    induction first generalizing zs with
    | nil => cases second; exact .nil
    | cons head _ ih =>
      cases second with
      | cons next tail => exact .cons ⟨_, head, next⟩ (ih tail)
  · intro related
    induction related with
    | nil => exact ⟨[], .nil, .nil⟩
    | cons head _ ih =>
      obtain ⟨y, first, second⟩ := head
      obtain ⟨ys, before, after⟩ := ih
      exact ⟨y :: ys, .cons first before, .cons second after⟩

theorem related_member {α β : Type} {R : α → β → Prop} {xs : List α} {ys : List β} {y : β}
    (related : List.Forall₂ R xs ys) (member : y ∈ ys) : ∃ x ∈ xs, R x y := by
  induction related with
  | nil => cases member
  | cons head _ ih =>
    rcases List.mem_cons.mp member with rfl | later
    · exact ⟨_, by simp, head⟩
    · obtain ⟨x, inside, found⟩ := ih later
      exact ⟨x, List.mem_cons_of_mem _ inside, found⟩

/-- Every fault of reading comes before every fault of checking. -/
theorem translate_error_iff :
    Script.translate script = .error fault ↔
      (∃ command, FirstFault Script.parseCommand (keptLines script) command fault) ∨
      ∃ calls call, Parsed (keptLines script) calls ∧ FirstFault Call.validate calls call fault := by
  rw [Script.translate, commands_eq_kept, parse_eq_pass, ← pass_error_iff]
  cases parsed : (keptLines script).mapM Script.parseCommand with
  | error found =>
    -- A fault of reading leaves no list of calls to check.
    have unread (calls : List Call) : ¬ Parsed (keptLines script) calls := by
      intro all
      rw [pass_ok_iff.mpr all] at parsed
      cases parsed
    simp [unread]
  | ok calls =>
    have unique (others : List Call) : Parsed (keptLines script) others ↔ others = calls := by
      rw [Parsed, ← pass_ok_iff, parsed, Except.ok.injEq, eq_comm]
    simp only [validate_eq_pass, pass_error_iff, statement_fault_iff, unique, exists_and_left,
      exists_eq_left, reduceCtorEq, false_or]

/-- A script translates exactly if every kept line does, and then line by line. -/
theorem translate_ok_iff {statements : List Statement} :
    Script.translate script = .ok statements ↔ List.Forall₂ Becomes (keptLines script) statements := by
  have pointwise : List.Forall₂ Becomes (keptLines script) statements ↔
      ∃ calls, Parsed (keptLines script) calls ∧
        List.Forall₂ (fun call s => Script.statement call = .ok s) calls statements := by
    simp only [Parsed, pairwise_through, becomes_iff]
  rw [pointwise, Script.translate, commands_eq_kept, parse_eq_pass]
  simp only [Parsed, ← pass_ok_iff]
  cases (keptLines script).mapM Script.parseCommand with
  | error found => simp
  | ok calls => simp [validate_eq_pass]

/-- A fault of translation points at a kept line, by its number and by its text as written. -/
theorem translate_fault_line (failed : Script.translate script = .error fault) :
    ∃ command ∈ keptLines script, faultLine fault = some (command.line, command.text) := by
  rcases translate_error_iff.mp failed with ⟨command, failing⟩ | ⟨calls, call, parsed, failing⟩
  · obtain ⟨member, fails⟩ := first_fault_member failing
    obtain ⟨reason, rfl⟩ := parse_command_fault fails
    exact ⟨command, member, rfl⟩
  · obtain ⟨member, fails⟩ := first_fault_member failing
    obtain ⟨command, inside, read⟩ := related_member parsed member
    obtain ⟨line, source, _⟩ := (parse_command_line_iff _ _).mp read
    exact ⟨command, inside, by rw [validate_fault fails, line, source]⟩

theorem kept_line_source (member : command ∈ keptLines script) :
    command.text ∈ Text.lines script ∧ HoldsCommand command.text := by
  obtain ⟨⟨line, number⟩, inside, rfl⟩ := List.mem_map.mp member
  obtain ⟨numbered, kept⟩ := List.mem_filter.mp inside
  exact ⟨List.fst_mem_of_mem_zipIdx numbered, of_decide_eq_true kept⟩

theorem kept_nonempty {line : String} (kept : HoldsCommand line) : line ≠ "" := by
  rintro rfl
  exact kept.1 rfl

/-- A kept line is the only kept line of the script that consists of it. -/
private theorem kept_lines_single (member : command ∈ keptLines script) :
    keptLines command.text = [⟨1, command.text⟩] := by
  obtain ⟨inside, kept⟩ := kept_line_source member
  simp [keptLines, lines_single (kept_nonempty kept) (line_without_feed inside), kept]

theorem becomes_alone {statement : Statement} (member : command ∈ keptLines script)
    (becomes : Becomes command statement) : Script.translate command.text = .ok [⟨1, statement.text⟩] := by
  rw [translate_ok_iff, kept_lines_single member]
  exact .cons ⟨rfl, renders_anywhere 1 becomes.2⟩ .nil

theorem becomes_increasing {commands : List Command} {statements : List Statement}
    (increasing : commands.Pairwise fun first second => first.line < second.line)
    (becomes : List.Forall₂ Becomes commands statements) :
    statements.Pairwise fun first second => first.line < second.line := by
  induction becomes with
  | nil => exact .nil
  | cons head tail ih =>
    obtain ⟨ahead, rest⟩ := List.pairwise_cons.mp increasing
    refine List.pairwise_cons.mpr ⟨?_, ih rest⟩
    intro later member
    obtain ⟨command, inside, found⟩ := related_member tail member
    rw [head.1, found.1]
    exact ahead command inside

/-- Translation is exact and stops at the right line. It fails exactly with the syntax fault of the first kept line
that is no command, or, if all of them are commands, with the fault of the first call that does not fit the catalog.
It succeeds exactly with one statement for each kept line, in order, which is what that line by itself becomes; their
numbers increase. A fault points at a kept line, and its message quotes the line as written. -/
theorem translate_exact (script : String) :
    (∀ fault, Script.translate script = .error fault ↔
      (∃ command reason, fault = .invalidSyntax command.line command.text reason ∧
        FirstFault Script.parseCommand (keptLines script) command fault) ∨
      ∃ calls call, Parsed (keptLines script) calls ∧ FirstFault Call.validate calls call fault) ∧
    (∀ statements, Script.translate script = .ok statements ↔
      List.Forall₂ Becomes (keptLines script) statements) ∧
    (∀ statements, Script.translate script = .ok statements →
      (statements.Pairwise fun first second => first.line < second.line) ∧
      List.Forall₂ (fun command s => Script.translate command.text = .ok [⟨1, s.text⟩])
        (keptLines script) statements) ∧
    (∀ fault, Script.translate script = .error fault → ∃ command ∈ keptLines script,
      faultLine fault = some (command.line, command.text) ∧
      ∃ before after, fault.message = before ++ quotedLine command.line command.text ++ after) := by
  refine ⟨?_, fun _ => translate_ok_iff, ?_, ?_⟩
  · intro fault
    rw [translate_error_iff]
    refine or_congr_left (exists_congr fun command => ⟨fun failing => ?_, fun ⟨_, _, failing⟩ => failing⟩)
    obtain ⟨reason, named⟩ := parse_command_fault (first_fault_member failing).2
    exact ⟨reason, named, failing⟩
  · intro statements translated
    have becomes := translate_ok_iff.mp translated
    have inside := (List.forall₂_and_left _ _).mpr ⟨fun command member => member, becomes⟩
    exact ⟨becomes_increasing (kept_lines_increasing script) becomes,
      inside.imp fun command statement related => becomes_alone related.1 related.2⟩
  · intro fault failed
    obtain ⟨command, member, points⟩ := translate_fault_line failed
    exact ⟨command, member, points, message_quotes_line points⟩

end Tabscript.ScriptTranslation
