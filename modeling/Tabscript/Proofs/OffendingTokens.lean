import Tabscript.Proofs.CallGrammar
import Tabscript.Proofs.SpelledTokens

/-! A syntax fault lies where the line stops being the beginning of a command.

Commands are compared by their tokens alone, whatever their text. From each state of the
reader a command can still be completed, by closing the calls that are open; so tokens that
were taken are the beginning of a command, and a token that is refused is the first that no
command goes on with. Faults of the lexer behind that token are never met. -/
namespace Tabscript.OffendingTokens
open Token Call TokenStream CallGrammar WrittenTokens SpelledTokens

variable {read : List Token} {t : Token} {reading : Reading} {fault : SyntaxFault} {reason : String}

/-- The tokens of a line that is a command, with the end of the line. -/
def IsCommand (tokens : List Token) : Prop :=
  ∃ command call, Script.parseCommand command = .ok call ∧ lex command.text = (tokens, none)

/-- Tokens that some command begins with. -/
def Viable (read : List Token) : Prop :=
  ∃ rest, IsCommand (read ++ rest)

/-- What is said of a token, by what could have stood in its place. -/
inductive Reports (before : List Token) (t : Token) : String → Prop where
  | name (first : before = []) : Reports before t ("expected an operation name, found " ++ t.describe)
  | paren (named : ∃ name, before = [.ident name]) :
    Reports before t ("expected '(' after operation name, found " ++ t.describe)
  | argument (due : ∀ s, Viable (before ++ [.str s])) : Reports before t ("expected an argument, found " ++ t.describe)
  | separator (due : Viable (before ++ [.comma])) :
    Reports before t ("expected ',' or ')' in argument list, found " ++ t.describe)
  | trailing (whole : IsCommand (before ++ [.eof])) :
    Reports before t ("unexpected " ++ t.describe ++ " after closing ')'")

/-- The reason given at an item of a line. A token must be one that no command goes on with,
and then the reason is not that of any lexical fault. -/
def ReasonAt (before : List Token) : Except LexFault Token → String → Prop
  | .error f, reason => reason = f.message
  | .ok t, reason => ¬ Viable (before ++ [t]) ∧ Reports before t reason ∧ ∀ f : LexFault, reason ≠ f.message

section Completion

/-- The tokens that lead to a state of the reader. -/
inductive Reached : List Token → Reading → Prop where
  | start : Reached [] .start
  | step {read : List Token} {reading reading' : Reading} {t : Token} (before : Reached read reading)
    (taken : reading.step t = .more reading') : Reached (read ++ [t]) reading'

theorem reached_run (reached : Reached read reading) (rest : List (Except LexFault Token)) :
    Reading.start.run (read.map .ok ++ rest) = reading.run rest := by
  induction reached generalizing rest with
  | start => rfl
  | step _ taken ih =>
    rw [List.map_append, List.append_assoc, ih]
    exact run_step taken

theorem reached_spelled (reached : Reached read reading) : Spelled reading read := by
  induction reached with
  | start => rfl
  | step _ taken ih => exact step_spelled ih taken

private theorem step_end (reading after : Reading) : reading.step .eof ≠ .more after := by
  cases reading <;> rintro ⟨⟩

/-- The end of a line leads nowhere. -/
private theorem reached_unended (reached : Reached read reading) : Token.eof ∉ read := by
  induction reached with
  | start => exact List.not_mem_nil
  | step _ taken ih =>
    intro member
    rcases List.mem_append.mp member with before | last
    · exact ih before
    · rw [← List.mem_singleton.mp last] at taken
      exact step_end _ _ taken

/-- Tokens that complete a command from a state, short of the end of the line. All open calls
are closed; an argument is added only where one is due. -/
def completion : Reading → List Token
  | .start => [.ident "f", .lparen, .rparen]
  | .named _ => [.lparen, .rparen]
  | .opened _ outer => List.replicate (outer.length + 1) .rparen
  | .due _ outer => .str "" :: List.replicate (outer.length + 1) .rparen
  | .word _ _ outer => List.replicate (outer.length + 1) .rparen
  | .filled _ outer => List.replicate (outer.length + 1) .rparen
  | .closed _ _ => []
  | .ended _ _ => []

private theorem close_completes (inner : OpenCall) (outer : List OpenCall) :
    ∃ name args, (Reading.close inner outer).run
      ((List.replicate outer.length Token.rparen ++ [Token.eof]).map .ok) = .ok (name, args) := by
  induction outer generalizing inner with
  | nil => exact ⟨_, _, rfl⟩
  | cons o outer ih => exact ih (o.push (.call inner.name inner.args.reverse))

private theorem completion_runs (reading : Reading) :
    ∃ name args, reading.run ((completion reading ++ [Token.eof]).map .ok) = .ok (name, args) := by
  cases reading with
  | start | named | closed | ended => exact ⟨_, _, rfl⟩
  | opened inner outer | filled inner outer => exact close_completes inner outer
  | due inner outer => exact close_completes (inner.push (.str "")) outer
  | word text inner outer => exact close_completes (inner.push (.ident text)) outer

private theorem completion_writable (reading : Reading) : ∀ t ∈ completion reading, Writable t := by
  obtain ⟨opening, closing, _⟩ := mark_writable
  have name : Writable (.ident "f") := name_writable ⟨'f', [], rfl, rfl, List.forall_mem_nil _⟩
  have closers (n : Nat) : ∀ t ∈ List.replicate n Token.rparen, Writable t := by
    intro t member
    rw [List.eq_of_mem_replicate member]
    exact closing
  cases reading with
  | start => simp [completion, name, opening, closing]
  | named => simp [completion, opening, closing]
  | opened inner outer | filled inner outer | word text inner outer => exact closers _
  | due inner outer => exact List.forall_mem_cons.mpr ⟨text_writable "", closers _⟩
  | closed | ended => exact List.forall_mem_nil _

end Completion

section Prefixes

theorem is_command_iff {tokens : List Token} : IsCommand tokens ↔
    ∃ line name args, items line = tokens.map .ok ∧ Reading.start.run (tokens.map .ok) = .ok (name, args) := by
  constructor
  · rintro ⟨command, call, parsed, clean⟩
    obtain ⟨_, _, ran⟩ := (parse_command_line_iff _ _).mp parsed
    have read := gather_clean_iff.mp clean
    rw [parseLine, read] at ran
    exact ⟨command.text.toList, call.name, call.args, read, ran⟩
  · rintro ⟨line, name, args, read, ran⟩
    rw [← String.toList_ofList (l := line)] at read
    have parsed : parseLine (String.ofList line) = .ok (name, args) := by
      rw [parseLine, read]
      exact ran
    exact ⟨⟨1, String.ofList line⟩, ⟨name, args, 1, String.ofList line⟩,
      (parse_command_line_iff _ _).mpr ⟨rfl, rfl, parsed⟩, gather_clean_iff.mpr read⟩

/-- The completion of a state makes a command of the tokens that led to it. -/
theorem reached_command (reached : Reached read reading) (writable : ∀ t ∈ read, Writable t) :
    IsCommand (read ++ (completion reading ++ [.eof])) := by
  have whole : ∀ t ∈ read ++ completion reading, Writable t :=
    List.forall_mem_append.mpr ⟨writable, completion_writable reading⟩
  obtain ⟨line, _, spelled⟩ := written_line whole
  obtain ⟨name, args, ran⟩ := completion_runs reading
  rw [List.append_assoc] at spelled
  refine is_command_iff.mpr ⟨line, name, args, spelled, ?_⟩
  rw [List.map_append, reached_run reached]
  exact ran

theorem reached_viable (reached : Reached read reading) (writable : ∀ t ∈ read, Writable t) : Viable read :=
  ⟨_, reached_command reached writable⟩

private theorem step_viable {reading' : Reading} (reached : Reached read reading) (writable : ∀ t ∈ read, Writable t)
    (token : Writable t) (taken : reading.step t = .more reading') : Viable (read ++ [t]) := by
  apply reached_viable (reached.step taken)
  exact List.forall_mem_append.mpr ⟨writable, List.forall_mem_singleton.mpr token⟩

/-- No command goes on with a token that is refused. -/
theorem refused_unviable (reached : Reached read reading) (refused : reading.step t = .fault fault) :
    ¬ Viable (read ++ [t]) := by
  rintro ⟨rest, command⟩
  obtain ⟨_, name, args, _, ran⟩ := is_command_iff.mp command
  rw [List.append_assoc, List.map_append, reached_run reached, List.singleton_append, List.map_cons, Reading.run,
    refused] at ran
  cases ran

end Prefixes

section Wording

/-- The fault of a token that a state refuses. -/
def stepFault : Reading → Token → SyntaxFault
  | .start => .nameExpected
  | .named _ => .parenExpected
  | .opened _ _ => .argumentExpected
  | .due _ _ => .argumentExpected
  | .word _ _ _ => .separatorExpected
  | .filled _ _ => .separatorExpected
  | .closed _ _ => .trailing
  | .ended _ _ => .trailing

theorem refused_with (refused : reading.step t = .fault fault) : fault = stepFault reading t := by
  cases reading <;> cases t <;> cases refused <;> rfl

/-- A refusal names the token, and what the message asks for could have stood there. -/
theorem refused_reports (reached : Reached read reading) (writable : ∀ t ∈ read, Writable t)
    (refused : reading.step t = .fault fault) : Reports read t fault.message := by
  have spelled := reached_spelled reached
  have text {inner : OpenCall} {outer : List OpenCall} (awaits : Awaits inner outer reading) (s : String) :
      Viable (read ++ [.str s]) :=
    step_viable reached writable (text_writable s) (awaits_step awaits (by simp))
  obtain ⟨_, _, comma, _⟩ := mark_writable
  rw [refused_with refused]
  cases reading with
  | start => exact .name spelled
  | named name => exact .paren ⟨name, spelled⟩
  | opened inner outer => exact .argument (text (opened_awaits inner outer))
  | due inner outer => exact .argument (text (due_awaits inner outer))
  | word name inner outer | filled inner outer => exact .separator (step_viable reached writable comma rfl)
  | closed name args | ended name args => exact .trailing (reached_command reached writable)

/-- How the messages of lexical faults begin. -/
def lexicalOpenings : List String :=
  ["expected digits after '", "malformed exponent in number ", "malformed number ", "unexpected character ",
    "unterminated string literal"]

/-- How the messages about tokens begin. -/
def tokenOpenings : List String :=
  ["expected an operation name, found ", "expected '(' after operation name, found ", "expected an argument, found ",
    "expected ',' or ')' in argument list, found ", "unexpected identifier ", "unexpected number ",
    "unexpected string ", "unexpected '", "unexpected end of line after closing ')'"]

/-- The text begins with one of the openings. -/
def OpensWith (openings : List String) (message : String) : Prop :=
  ∃ front ∈ openings, front.toList <+: message.toList

private theorem opens_itself {openings : List String} {front : String} (listed : front ∈ openings) :
    OpensWith openings front :=
  ⟨front, listed, List.prefix_rfl⟩

private theorem opens_longer {openings : List String} {message : String} (opens : OpensWith openings message)
    (rest : String) :
    OpensWith openings (message ++ rest) := by
  obtain ⟨front, listed, start⟩ := opens
  refine ⟨front, listed, ?_⟩
  rw [String.toList_append]
  exact start.trans (List.prefix_append _ _)

theorem lexical_opens (f : LexFault) : OpensWith lexicalOpenings f.message := by
  cases f with
  | bareSign sign => exact opens_longer (opens_longer (opens_itself (by simp [lexicalOpenings])) _) _
  | emptyExponent text | malformedNumber text | strayCharacter c =>
    exact opens_longer (opens_itself (by simp [lexicalOpenings])) _
  | gluedNumber next text =>
    have opens : OpensWith lexicalOpenings ("unexpected character " ++ next.toString) :=
      opens_longer (opens_itself (by simp [lexicalOpenings])) _
    exact opens_longer (opens_longer opens _) _
  | openText =>
    have listed : "unterminated string literal" ∈ lexicalOpenings := by simp [lexicalOpenings]
    exact opens_itself listed

/-- The word for a token is part of the opening where the message begins with it. -/
private theorem trailing_opens (t : Token) :
    OpensWith tokenOpenings ("unexpected " ++ t.describe ++ " after closing ')'") := by
  have word {front : String} (rest : String) (listed : "unexpected " ++ front ∈ tokenOpenings) :
      OpensWith tokenOpenings ("unexpected " ++ (front ++ rest)) := by
    rw [← String.append_assoc]
    exact opens_longer (opens_itself listed) rest
  have mark (rest : String) : OpensWith tokenOpenings ("unexpected " ++ ("'" ++ rest)) :=
    word rest (by decide +kernel)
  cases t with
  | ident text | number text | str text => exact opens_longer (word _ (by decide +kernel)) _
  | lparen => exact opens_longer (mark "('") _
  | rparen => exact opens_longer (mark ")'") _
  | comma => exact opens_longer (mark ",'") _
  | semicolon => exact opens_longer (mark ";'") _
  | eof => exact opens_itself (by decide +kernel)

theorem reports_opens {before : List Token} (reports : Reports before t reason) : OpensWith tokenOpenings reason := by
  cases reports with
  | name | paren | argument | separator => exact opens_longer (opens_itself (by simp [tokenOpenings])) _
  | trailing => exact trailing_opens t

/-- No message about a token is also that of a lexical fault. -/
theorem reports_unlexical {before : List Token} (reports : Reports before t reason) (f : LexFault) :
    reason ≠ f.message := by
  have apart : ∀ front ∈ tokenOpenings, ∀ other ∈ lexicalOpenings,
      ¬ front.toList <+: other.toList ∧ ¬ other.toList <+: front.toList := by
    decide +kernel
  intro same
  obtain ⟨front, listed, start⟩ := reports_opens reports
  obtain ⟨other, found, also⟩ := lexical_opens f
  rw [same] at start
  rcases List.prefix_or_prefix_of_prefix start also with shorter | longer
  · exact (apart front listed other found).1 shorter
  · exact (apart front listed other found).2 longer

theorem opens_otherwise {openings : List String} {message : String} (opens : OpensWith openings message)
    (apart : ∀ front ∈ openings, ¬ front.toList <+: reason.toList) : message ≠ reason := by
  rintro rfl
  obtain ⟨front, listed, start⟩ := opens
  exact apart front listed start

end Wording

section Runs

/-- A run that fails has been stopped at some item: at a lexical fault, or at a token that the
state before it refuses. The reader never runs out of items. -/
theorem run_stops {tokens : List Token} {verdict : Except LexFault Token} (closes : Verdict verdict)
    (reached : Reached read reading) (failed : reading.run (tokens.map .ok ++ [verdict]) = .error fault) :
    ∃ before item after stopped, tokens.map .ok ++ [verdict] = before.map .ok ++ item :: after ∧
      Reached (read ++ before) stopped ∧
      ((∃ f, item = .error f ∧ fault = .lexical f) ∨ ∃ t, item = .ok t ∧ stopped.step t = .fault fault) := by
  induction tokens generalizing read reading with
  | nil =>
    refine ⟨[], verdict, [], reading, rfl, by rwa [List.append_nil], ?_⟩
    cases verdict with
    | error f =>
      cases failed
      exact .inl ⟨f, rfl, rfl⟩
    | ok last =>
      cases closes
      rw [List.map_nil, List.nil_append, Reading.run] at failed
      cases step : reading.step .eof with
      | more after => exact absurd step (step_end reading after)
      | done name args => simp [step] at failed
      | fault found =>
        simp only [step, Except.error.injEq] at failed
        exact .inr ⟨.eof, rfl, failed ▸ step⟩
  | cons t more ih =>
    rw [List.map_cons, List.cons_append, Reading.run] at failed
    cases step : reading.step t with
    | more after =>
      simp only [step] at failed
      obtain ⟨before, item, rest, stopped, split, reaches, cause⟩ := ih (reached.step step) failed
      rw [List.append_assoc, List.singleton_append] at reaches
      exact ⟨t :: before, item, rest, stopped, by simp [split], reaches, cause⟩
    | done name args => simp [step] at failed
    | fault found =>
      simp only [step, Except.error.injEq] at failed
      exact ⟨[], .ok t, _, reading, rfl, by rwa [List.append_nil], .inr ⟨t, rfl, failed ▸ step⟩⟩

theorem parse_command_error {command : Command} {fault : Fault}
    (rejected : Script.parseCommand command = .error fault) :
    ∃ cause : SyntaxFault, Reading.start.run (items command.text.toList) = .error cause ∧
      fault = .invalidSyntax command.line command.text cause.message := by
  unfold Script.parseCommand at rejected
  split at rejected
  · cases rejected
  · rename_i cause failed
    cases rejected
    exact ⟨cause, failed, rfl⟩

end Runs

/-- A syntax fault is found at the first place where the line is no longer the beginning of a
command. The tokens before that place can be completed to a command. What stands there is a
lexical fault, whose wording is the reason, or a token that no command goes on with, of which
the reason says what could have stood instead; then it is the reason of no lexical fault. The
reason for a line without an end is never given. -/
theorem fault_at_first_offence {command : Command} {fault : Fault}
    (rejected : Script.parseCommand command = .error fault) :
    ∃ before item after reason, items command.text.toList = before.map .ok ++ item :: after ∧
      fault = .invalidSyntax command.line command.text reason ∧
      Viable before ∧ ReasonAt before item reason ∧ reason ≠ "unexpected end of line" := by
  obtain ⟨tokens, verdict, shape, closes, _⟩ := items_shape command.text.toList
  obtain ⟨cause, failed, rfl⟩ := parse_command_error rejected
  rw [shape] at failed
  obtain ⟨before, item, after, stopped, split, reached, found⟩ := run_stops closes .start failed
  rw [List.nil_append] at reached
  rw [split] at shape
  have writable : ∀ t ∈ before, Writable t := by
    intro t member
    have inside : .ok t ∈ items command.text.toList := by
      rw [shape]
      exact List.mem_append_left _ (List.mem_map_of_mem member)
    refine item_writable inside ?_
    rintro rfl
    exact reached_unended reached member
  refine ⟨before, item, after, cause.message, shape, rfl, reached_viable reached writable, ?_⟩
  rcases found with ⟨f, rfl, rfl⟩ | ⟨t, rfl, refused⟩
  · exact ⟨rfl, opens_otherwise (lexical_opens f) (by decide +kernel)⟩
  · have reports := refused_reports reached writable refused
    exact ⟨⟨refused_unviable reached refused, reports, reports_unlexical reports⟩,
      opens_otherwise (reports_opens reports) (by decide +kernel)⟩

/-- A nested call that is closed too early, with a text behind it that is never closed. -/
theorem fault_at_first_offence_nested :
    ∃ before item after reason, items "f(g(1, ) \"a".toList = before.map .ok ++ item :: after ∧
      Fault.invalidSyntax 3 "f(g(1, ) \"a" "expected an argument, found ')'" =
        .invalidSyntax 3 "f(g(1, ) \"a" reason ∧
      Viable before ∧ ReasonAt before item reason ∧ reason ≠ "unexpected end of line" := by
  have read : items "f(g(1, ) \"a".toList = [.ok (.ident "f"), .ok .lparen, .ok (.ident "g"), .ok .lparen,
      .ok (.number "1"), .ok .comma, .ok .rparen, .error .openText] := by
    decide +kernel
  have rejected : Script.parseCommand ⟨3, "f(g(1, ) \"a"⟩ =
      .error (.invalidSyntax 3 "f(g(1, ) \"a" "expected an argument, found ')'") := by
    rw [Script.parseCommand, parseLine, read]
    rfl
  exact fault_at_first_offence rejected

end Tabscript.OffendingTokens
