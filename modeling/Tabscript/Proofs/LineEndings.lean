import Tabscript.Proofs.ScriptComposition

/-! Line endings in scripts. A line feed takes one carriage return before it into the ending
of the line. A second one stays behind the line and goes on into the tokens of its command,
wherever the line breaks off: behind a token, in an open text, after half a number. It is a
blank at the end of the line there, so the command reads as it would without it, and only a
fault that quotes its line shows the difference. -/
namespace Tabscript.LineEndings
open Text TrailingBlanks ScriptTranslation ScriptComposition

/-- The same characters, with a carriage return put directly before some of the line feeds. -/
inductive Returned : List Char → List Char → Prop where
  | nil : Returned [] []
  | same (c : Char) {cs ds : List Char} (more : Returned cs ds) : Returned (c :: cs) (c :: ds)
  | before {cs ds : List Char} (more : Returned cs ds) : Returned ('\n' :: cs) ('\r' :: '\n' :: ds)

/-- The other text is the same, or has one more carriage return at its end. -/
def MayReturn (text other : String) : Prop :=
  other = text ∨ other = text ++ "\r"

/-- The fault with another text for the line that it quotes. All else in it stays. -/
def quoting (text : String) : Fault → Fault
  | .invalidSyntax line _ reason => .invalidSyntax line text reason
  | .unknownFunction line _ name => .unknownFunction line text name
  | .wrongArity line _ name expected got => .wrongArity line text name expected got
  | .invalidArgument line _ name position param reason => .invalidArgument line text name position param reason
  | fault => fault

/-- The other fault is the same, but for a carriage return that may stand behind the quoted line. -/
def SameFault (fault other : Fault) : Prop :=
  ∃ line text quoted, faultLine fault = some (line, text) ∧ MayReturn text quoted ∧ other = quoting quoted fault

/-- Two results that are both values, and related, or both the same fault. -/
inductive Agree {α : Type} (R : α → α → Prop) : Except Fault α → Except Fault α → Prop where
  | values {a b : α} (related : R a b) : Agree R (.ok a) (.ok b)
  | faults {fault other : Fault} (same : SameFault fault other) : Agree R (.error fault) (.error other)

section Lines

variable {cs ds piece : List Char} {line other : String}

/-- A piece and its like with one more carriage return leave lines that differ by one at most. -/
private theorem drop_return_more (piece : List Char) :
    MayReturn (String.ofList (dropReturn piece)) (String.ofList (dropReturn (piece ++ ['\r']))) := by
  have dropped : dropReturn (piece ++ ['\r']) = piece := by
    rw [dropReturn, List.getLast?_concat, if_pos rfl, List.dropLast_concat]
  rw [dropped]
  rcases drop_return_cases piece with same | kept
  · rw [same]
    exact .inl rfl
  · right
    conv_lhs => rw [kept]
    rw [String.ofList_append]

theorem lines_first (piece cs : List Char) :
    linesOfSegments (piece :: segments cs) = dropReturn piece :: linesOfSegments (segments cs) :=
  lines_joined [piece] (segments_given cs)

/-- The lines of the two texts go in step. What is held of a line is the same on both sides
until a carriage return comes before its line feed. -/
theorem lines_returned (returned : Returned cs ds) (held : List Char) :
    List.Forall₂ MayReturn ((linesOfSegments (segmentsFrom held cs)).map String.ofList)
      ((linesOfSegments (segmentsFrom held ds)).map String.ofList) := by
  induction returned generalizing held with
  | nil => exact List.forall₂_same.mpr fun _ _ => .inl rfl
  | @same c cs ds _ ih =>
    rw [segmentsFrom, segmentsFrom]
    split
    · have later := ih []
      rw [← segments, ← segments] at later ⊢
      rw [lines_first, lines_first]
      exact .cons (.inl rfl) later
    · exact ih (c :: held)
  | @before cs ds _ ih =>
    have kept : segmentsFrom held ('\r' :: '\n' :: ds) = (held.reverse ++ ['\r']) :: segments ds := by
      simp [segmentsFrom, segments]
    have plain : segmentsFrom held ('\n' :: cs) = held.reverse :: segments cs := by
      simp [segmentsFrom, segments]
    rw [kept, plain, lines_first, lines_first]
    exact .cons (drop_return_more held.reverse) (ih [])

theorem holds_returned (alike : MayReturn line other) : Script.holdsCommand other = Script.holdsCommand line := by
  rcases alike with rfl | rfl
  · rfl
  · have trimmed : trim (line ++ "\r").toList = trim line.toList := by
      rw [String.toList_append]
      exact trim_blank rfl line.toList
    rw [Script.holdsCommand, Script.holdsCommand, trimmed]

theorem parse_line_returned (alike : MayReturn line other) : Call.parseLine other = Call.parseLine line := by
  rcases alike with rfl | rfl
  · rfl
  · have read : Token.items (line ++ "\r").toList = Token.items line.toList := by
      rw [String.toList_append]
      exact items_blank rfl line.toList
    rw [Call.parseLine, Call.parseLine, read]

end Lines

section Commands

variable {command next : Command} {call : Call}

/-- The commands of two lines in step: the same number, and nearly the same text. -/
def CommandReturned (command next : Command) : Prop :=
  next.line = command.line ∧ MayReturn command.text next.text

theorem commands_returned {lines others : List String} (alike : List.Forall₂ MayReturn lines others) (number : Nat) :
    List.Forall₂ CommandReturned (Script.commandsFrom number lines) (Script.commandsFrom number others) := by
  induction alike generalizing number with
  | nil => exact .nil
  | cons head _ ih =>
    rw [Script.commandsFrom, Script.commandsFrom, holds_returned head]
    split
    · exact .cons ⟨rfl, head⟩ (ih (number + 1))
    · exact ih (number + 1)

/-- The call as it is read off a line with the given text. -/
def CallReturned (call next : Call) : Prop :=
  ∃ quoted, MayReturn call.source quoted ∧ next = { call with source := quoted }

theorem parse_returned (alike : CommandReturned command next) :
    Agree CallReturned (Script.parseCommand command) (Script.parseCommand next) := by
  obtain ⟨number, text⟩ := alike
  rw [Script.parseCommand, Script.parseCommand, parse_line_returned text, number]
  cases Call.parseLine command.text with
  | ok found => exact .values ⟨next.text, text, rfl⟩
  | error fault => exact .faults ⟨command.line, command.text, next.text, rfl, text, rfl⟩

/-- The check of a call looks at its line only to quote it. -/
private theorem validate_quoting (call : Call) (text : String) :
    Call.validate { call with source := text } = (call.validate).mapError (quoting text) := by
  unfold Call.validate
  dsimp only
  split
  · rfl
  · split
    · split
      · rfl
      · rfl
    · rfl

theorem statement_returned {next : Call} (alike : CallReturned call next) :
    Agree Eq (Script.statement call) (Script.statement next) := by
  obtain ⟨quoted, source, rfl⟩ := alike
  rw [Script.statement, Script.statement, validate_quoting call quoted]
  cases verdict : call.validate with
  | ok op => exact .values rfl
  | error fault => exact .faults ⟨call.line, call.source, quoted, validate_fault verdict, source, rfl⟩

end Commands

/-- Passes over two lists in step agree if they agree at every step: they stop at the same place. -/
theorem pass_returned {α β : Type} {f : α → Except Fault β} {R : β → β → Prop} {xs ys : List α}
    (steps : List.Forall₂ (fun x y => Agree R (f x) (f y)) xs ys) :
    Agree (List.Forall₂ R) (xs.mapM f) (ys.mapM f) := by
  induction steps with
  | nil => exact .values .nil
  | @cons x y xs ys head _ ih =>
    rw [pass_cons, pass_cons]
    generalize f x = first at head ⊢
    generalize f y = second at head ⊢
    cases head with
    | faults same => exact .faults same
    | values related =>
      dsimp only
      generalize xs.mapM f = before at ih ⊢
      generalize ys.mapM f = after at ih ⊢
      cases ih with
      | faults same => exact .faults same
      | values others => exact .values (.cons related others)

theorem translate_returned {script other : String} (returned : Returned script.toList other.toList) :
    Agree Eq (Script.translate script) (Script.translate other) := by
  have commands : List.Forall₂ CommandReturned (Script.commands script) (Script.commands other) :=
    commands_returned (lines_returned returned []) 1
  have parsed := pass_returned (commands.imp fun _ _ => parse_returned)
  rw [Script.translate, Script.translate, parse_eq_pass, parse_eq_pass]
  generalize (Script.commands script).mapM Script.parseCommand = before at parsed ⊢
  generalize (Script.commands other).mapM Script.parseCommand = after at parsed ⊢
  cases parsed with
  | faults same => exact .faults same
  | values calls =>
    have checked := pass_returned (calls.imp fun _ _ => statement_returned)
    rw [List.forall₂_eq_eq_eq] at checked
    dsimp only
    rw [validate_eq_pass, validate_eq_pass]
    exact checked

/-- Line endings do not matter. A script in which carriage returns are put before some of its line
feeds translates to the same statements, or fails with the same fault at the same line, in which at
most the quoted line has one more carriage return at its end. -/
theorem line_endings_agree {script other : String} (returned : Returned script.toList other.toList) :
    (∃ statements, Script.translate script = .ok statements ∧ Script.translate other = .ok statements) ∨
    ∃ fault line text quoted, Script.translate script = .error fault ∧ faultLine fault = some (line, text) ∧
      (quoted = text ∨ quoted = text ++ "\r") ∧ Script.translate other = .error (quoting quoted fault) := by
  have agree := translate_returned returned
  generalize Script.translate script = result at agree ⊢
  generalize Script.translate other = otherwise at agree ⊢
  cases agree with
  | @values statements _ same =>
    cases same
    exact .inl ⟨statements, rfl, rfl⟩
  | @faults fault _ same =>
    obtain ⟨line, text, quoted, points, alike, rfl⟩ := same
    exact .inr ⟨fault, line, text, quoted, rfl, points, alike, rfl⟩

/-- The last line breaks off after a backslash in an open text and has a carriage return of its own
before its line feed. Another one is put there, and one before the first line feed. -/
theorem line_endings_agree_open_text :
    Returned "predict()\nprint(\"a\\\r\n".toList "predict()\r\nprint(\"a\\\r\r\n".toList ∧
    ∃ fault line text quoted, Script.translate "predict()\nprint(\"a\\\r\n" = .error fault ∧
      faultLine fault = some (line, text) ∧ (quoted = text ∨ quoted = text ++ "\r") ∧
      Script.translate "predict()\r\nprint(\"a\\\r\r\n" = .error (quoting quoted fault) := by
  have returned : Returned "predict()\nprint(\"a\\\r\n".toList "predict()\r\nprint(\"a\\\r\r\n".toList := by
    rw [show "predict()\nprint(\"a\\\r\n".toList = _ from String.toList_ofList,
      show "predict()\r\nprint(\"a\\\r\r\n".toList = _ from String.toList_ofList]
    repeat first
      | exact .nil
      | apply Returned.same
      | apply Returned.before
  have failed : Script.translate "predict()\nprint(\"a\\\r\n" =
      .error (.invalidSyntax 2 "print(\"a\\" "unterminated string literal") := by decide +kernel
  refine ⟨returned, ?_⟩
  rcases line_endings_agree returned with ⟨statements, translated, _⟩ | faults
  · cases failed.symm.trans translated
  · exact faults

end Tabscript.LineEndings
