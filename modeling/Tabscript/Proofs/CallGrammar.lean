import Tabscript.Proofs.TokenStream
import Tabscript.Script

/-! The grammar of commands as a token form: how a call and its arguments, nested
to any depth, are written as tokens. The form is defined on the expression tree
and knows nothing of the reader; the reader's open calls are related to it by
the tokens that led to them. Reading and writing then meet in one equivalence. -/
namespace Tabscript.CallGrammar
open Token Call TokenStream

mutual

/-- The tokens that an argument is written with. -/
def exprTokens : Expr → List Token
  | .str text => [.str text]
  | .number text => [.number text]
  | .ident text => [.ident text]
  | .call name args => .ident name :: .lparen :: (argTokens args ++ [.rparen])

/-- The tokens of arguments in order, with a single comma between neighbours. -/
def argTokens : List Expr → List Token
  | [] => []
  | [e] => exprTokens e
  | e :: more => exprTokens e ++ .comma :: argTokens more

end

/-- The tokens of a whole call. Without arguments nothing stands between the parentheses. -/
def callTokens (name : String) (args : List Expr) : List Token :=
  .ident name :: .lparen :: (argTokens args ++ [.rparen])

/-- Arguments that are followed by more, each with its comma. -/
def ledTokens (args : List Expr) : List Token :=
  args.flatMap fun e => exprTokens e ++ [.comma]

theorem call_tokens_eq (name : String) (args : List Expr) :
    exprTokens (.call name args) = callTokens name args := by
  rw [exprTokens, callTokens]

@[simp] theorem arg_tokens_cons (e f : Expr) (more : List Expr) :
    argTokens (e :: f :: more) = exprTokens e ++ .comma :: argTokens (f :: more) := by
  rw [argTokens]
  simp

private theorem arg_tokens_concat (args : List Expr) (e : Expr) :
    argTokens (args ++ [e]) = ledTokens args ++ exprTokens e := by
  induction args with
  | nil => simp [argTokens, ledTokens]
  | cons first more ih =>
    obtain ⟨second, rest, split⟩ : ∃ second rest, more ++ [e] = second :: rest := by
      cases more <;> simp
    rw [List.cons_append, split, arg_tokens_cons, ← split, ih]
    simp [ledTokens]

/-- The tokens that opened the calls on a stack, the nearest call first, with the
arguments that each of them has been given so far. -/
def leadTokens : List OpenCall → List Token
  | [] => []
  | o :: outer => leadTokens outer ++ .ident o.name :: .lparen :: ledTokens o.args.reverse

/-- The tokens behind a reading. A call is opened without arguments, and an
argument that is complete is not yet followed by a comma. -/
def Spelled : Reading → List Token → Prop
  | .start, read => read = []
  | .named name, read => read = [.ident name]
  | .opened inner outer, read => inner.args = [] ∧ read = leadTokens (inner :: outer)
  | .due inner outer, read => read = leadTokens (inner :: outer)
  | .word text inner outer, read => read = leadTokens (inner :: outer) ++ [.ident text]
  | .filled inner outer, read =>
    ∃ e args, inner.args = e :: args ∧ read = leadTokens (⟨inner.name, args⟩ :: outer) ++ exprTokens e
  | .closed name args, read => read = callTokens name args
  | .ended name args, read => read = callTokens name args ++ [.semicolon]

variable {inner : OpenCall} {outer : List OpenCall} {read tokens : List Token} {t : Token}
variable {reading reading' : Reading} {name : String} {args : List Expr}

private theorem filled_spelled (e : Expr) :
    Spelled (.filled (inner.push e) outer) (leadTokens (inner :: outer) ++ exprTokens e) :=
  ⟨e, inner.args, rfl, rfl⟩

/-- Closing a call turns its tokens into those of a whole argument, or of the command. -/
private theorem close_spelled (inner : OpenCall) (outer : List OpenCall) :
    Spelled (Reading.close inner outer) (leadTokens outer ++ callTokens inner.name inner.args.reverse) := by
  cases outer with
  | nil => simp [Reading.close, Spelled, leadTokens]
  | cons o outer =>
    rw [← call_tokens_eq]
    exact filled_spelled _

private theorem argument_spelled (led : read = leadTokens (inner :: outer))
    (step : Reading.argument inner outer t = .more reading) : Spelled reading (read ++ [t]) := by
  subst led
  cases t with
  | str text => cases step; exact filled_spelled (.str text)
  | number text => cases step; exact filled_spelled (.number text)
  | ident text => cases step; rfl
  | lparen | rparen | comma | semicolon | eof => cases step

private theorem separator_spelled (spelled : Spelled (.filled inner outer) read)
    (step : Reading.separator inner outer t = .more reading) : Spelled reading (read ++ [t]) := by
  obtain ⟨e, args, last, rfl⟩ := spelled
  cases t with
  | comma =>
    cases step
    simp [Spelled, leadTokens, ledTokens, last]
  | rparen =>
    cases step
    have whole := close_spelled inner outer
    rw [last, List.reverse_cons, callTokens, arg_tokens_concat] at whole
    simpa [leadTokens] using whole
  | ident text | number text | str text | lparen | semicolon | eof => cases step

/-- Whatever a token does to a reading, the tokens behind it grow by just that token. -/
theorem step_spelled (spelled : Spelled reading read) (step : reading.step t = .more reading') :
    Spelled reading' (read ++ [t]) := by
  cases reading with
  | start =>
    subst spelled
    cases t <;> cases step
    rfl
  | named name =>
    subst spelled
    cases t <;> cases step
    simp [Spelled, leadTokens, ledTokens]
  | opened inner outer =>
    obtain ⟨fresh, rfl⟩ := spelled
    cases t with
    | rparen =>
      cases step
      have whole := close_spelled inner outer
      simpa [fresh, leadTokens, ledTokens, callTokens, argTokens] using whole
    | ident text | number text | str text | lparen | comma | semicolon | eof =>
      exact argument_spelled rfl step
  | due inner outer => exact argument_spelled spelled step
  | word text inner outer =>
    subst spelled
    cases t with
    | lparen =>
      cases step
      simp [Spelled, leadTokens, ledTokens]
    | ident other | number other | str other | rparen | comma | semicolon | eof =>
      exact separator_spelled (filled_spelled (.ident text)) step
  | filled inner outer => exact separator_spelled spelled step
  | closed name args =>
    subst spelled
    cases t <;> cases step
    rfl
  | ended name args => cases t <;> cases step

/-- What may stand between a call and the end of its line. -/
def CallEnd (tokens : List Token) : Prop :=
  tokens = [] ∨ tokens = [.semicolon]

theorem step_done (spelled : Spelled reading read) (step : reading.step t = .done name args) :
    t = .eof ∧ ∃ ending, CallEnd ending ∧ read = callTokens name args ++ ending := by
  cases reading with
  | start | named _ => cases t <;> cases step
  | opened inner outer | due inner outer | word text inner outer | filled inner outer =>
    cases t <;> cases step
  | closed name args =>
    subst spelled
    cases t <;> cases step
    exact ⟨rfl, [], Or.inl rfl, by simp⟩
  | ended name args =>
    subst spelled
    cases t <;> cases step
    exact ⟨rfl, [.semicolon], Or.inr rfl, rfl⟩

/-- A run that ends well has gone through the token form of the call it gives. -/
theorem run_sound {sequence : List (Except LexFault Token)} (spelled : Spelled reading read)
    (ran : reading.run sequence = .ok (name, args)) :
    ∃ tokens rest ending, sequence = tokens.map .ok ++ .ok .eof :: rest ∧ CallEnd ending ∧
      read ++ tokens = callTokens name args ++ ending := by
  induction sequence generalizing reading read with
  | nil => cases ran
  | cons item more ih =>
    cases item with
    | error f => cases ran
    | ok t =>
      rw [Reading.run] at ran
      cases step : reading.step t with
      | fault f => simp [step] at ran
      | done found given =>
        simp only [step, Except.ok.injEq, Prod.mk.injEq] at ran
        obtain ⟨rfl, rfl⟩ := ran
        obtain ⟨rfl, ending, closes, form⟩ := step_done spelled step
        exact ⟨[], more, ending, rfl, closes, by rw [List.append_nil, form]⟩
      | more after =>
        simp only [step] at ran
        obtain ⟨tokens, rest, ending, split, closes, form⟩ := ih (step_spelled spelled step) ran
        refine ⟨t :: tokens, rest, ending, by simp [split], closes, ?_⟩
        rw [← form, List.append_assoc, List.singleton_append]

/-- A reading at a place where an argument may begin. -/
def Awaits (inner : OpenCall) (outer : List OpenCall) (reading : Reading) : Prop :=
  reading = .opened inner outer ∨ reading = .due inner outer

theorem opened_awaits (inner : OpenCall) (outer : List OpenCall) : Awaits inner outer (.opened inner outer) :=
  Or.inl rfl

theorem due_awaits (inner : OpenCall) (outer : List OpenCall) : Awaits inner outer (.due inner outer) :=
  Or.inr rfl

theorem awaits_step (awaits : Awaits inner outer reading) (other : t ≠ .rparen) :
    reading.step t = Reading.argument inner outer t := by
  rcases awaits with rfl | rfl
  · cases t <;> first | rfl | exact absurd rfl other
  · rfl

/-- A bare name is a whole argument as soon as a token other than a parenthesis follows. -/
private theorem word_step (text : String) (other : t ≠ .lparen) :
    (Reading.word text inner outer).step t = (Reading.filled (inner.push (.ident text)) outer).step t := by
  cases t <;> first | rfl | exact absurd rfl other

theorem run_step {rest : List (Except LexFault Token)} (step : reading.step t = .more reading') :
    reading.run (.ok t :: rest) = reading'.run rest := by
  rw [Reading.run, step]

theorem run_congr {rest : List (Except LexFault Token)} (step : reading.step t = reading'.step t) :
    reading.run (.ok t :: rest) = reading'.run (.ok t :: rest) := by
  rw [Reading.run, Reading.run, step]

/-- The call with arguments added after those it already has. -/
def withArgs (inner : OpenCall) (args : List Expr) : OpenCall :=
  ⟨inner.name, args.reverse ++ inner.args⟩

/-- Closing a call that had no arguments before gives just the arguments added. -/
private theorem close_fresh (name : String) (args : List Expr) (outer : List OpenCall) :
    Reading.close (withArgs ⟨name, []⟩ args) outer = match outer with
      | [] => .closed name args
      | o :: outer => .filled (o.push (.call name args)) outer := by
  cases outer <;> simp [Reading.close, withArgs]

mutual

/-- Where an argument may begin, its tokens take the reading past the whole argument. The token behind the
argument must not be an opening parenthesis, since a bare name would then begin a call. -/
theorem run_expr {inner : OpenCall} {outer : List OpenCall} {reading : Reading} {t : Token}
    (awaits : Awaits inner outer reading) (other : t ≠ .lparen) (rest : List (Except LexFault Token)) (e : Expr) :
    reading.run ((exprTokens e).map .ok ++ .ok t :: rest) =
      (Reading.filled (inner.push e) outer).run (.ok t :: rest) := by
  match e with
  | .str text => exact run_step (awaits_step awaits (by simp))
  | .number text => exact run_step (awaits_step awaits (by simp))
  | .ident text =>
    exact (run_step (awaits_step awaits (by simp))).trans (run_congr (word_step text other))
  | .call name args =>
    have named : reading.step (.ident name) = .more (.word name inner outer) :=
      awaits_step awaits (by simp)
    have opens : (Reading.word name inner outer).step .lparen = .more (.opened ⟨name, []⟩ (inner :: outer)) :=
      rfl
    have body := run_args (opened_awaits ⟨name, []⟩ (inner :: outer)) (.ok t :: rest) args (fun _ => rfl)
    rw [close_fresh] at body
    rw [call_tokens_eq, callTokens, List.map_cons, List.map_cons, List.cons_append, List.cons_append,
      run_step named, run_step opens, List.map_append, List.append_assoc]
    exact body

/-- The tokens of arguments and the closing parenthesis behind them close the call
with these arguments. A call without arguments is closed only where it was opened. -/
theorem run_args {inner : OpenCall} {outer : List OpenCall} {reading : Reading}
    (awaits : Awaits inner outer reading) (rest : List (Except LexFault Token)) (args : List Expr)
    (given : args = [] → reading = .opened inner outer) :
    reading.run ((argTokens args).map .ok ++ .ok .rparen :: rest) =
      (Reading.close (withArgs inner args) outer).run rest := by
  match args with
  | [] =>
    -- After a comma the parenthesis would be refused, so the place decides here.
    rw [given rfl]
    rfl
  | [e] =>
    rw [argTokens, run_expr awaits (by simp) rest e]
    rfl
  | e :: f :: more =>
    have comma : (Reading.filled (inner.push e) outer).step .comma = .more (.due (inner.push e) outer) := rfl
    have later := run_args (due_awaits (inner.push e) outer) rest (f :: more) nofun
    rw [arg_tokens_cons, List.map_append, List.map_cons, List.append_assoc, List.cons_append,
      run_expr awaits (by simp) _ e, run_step comma, later]
    simp [withArgs, OpenCall.push]

end

/-- The token form of a call is read as that call, with a semicolon behind it or without. -/
theorem run_complete {ending : List Token} (closes : CallEnd ending) (name : String) (args : List Expr) :
    Reading.start.run ((callTokens name args ++ ending ++ [Token.eof]).map .ok) = .ok (name, args) := by
  have named : Reading.start.step (.ident name) = .more (.named name) := rfl
  have opens : (Reading.named name).step .lparen = .more (.opened ⟨name, []⟩ []) := rfl
  have body := run_args (opened_awaits ⟨name, []⟩ []) ((ending ++ [Token.eof]).map .ok) args (fun _ => rfl)
  have finish : (Reading.closed name args).run ((ending ++ [Token.eof]).map .ok) = .ok (name, args) := by
    rcases closes with rfl | rfl <;> rfl
  rw [close_fresh] at body
  calc Reading.start.run ((callTokens name args ++ ending ++ [Token.eof]).map .ok)
      = (Reading.opened ⟨name, []⟩ []).run
          ((argTokens args).map .ok ++ .ok .rparen :: (ending ++ [Token.eof]).map .ok) := by
        simp only [callTokens, List.cons_append, List.map_cons, run_step named, run_step opens]
        simp
    _ = (Reading.closed name args).run ((ending ++ [Token.eof]).map .ok) := body
    _ = .ok (name, args) := finish

/-- A line is read as a call exactly if its items are the token form of that
call, at most one semicolon and the end of the line. -/
theorem parse_line_ok_iff (line name : String) (args : List Expr) :
    parseLine line = .ok (name, args) ↔
      ∃ ending, CallEnd ending ∧ items line.toList = (callTokens name args ++ ending ++ [Token.eof]).map .ok := by
  constructor
  · intro ran
    have fresh : Spelled .start [] := rfl
    obtain ⟨tokens, rest, ending, split, closes, form⟩ := run_sound fresh ran
    rw [List.nil_append] at form
    refine ⟨ending, closes, ?_⟩
    rw [split, items_after_end _ split, ← form]
    simp
  · rintro ⟨ending, closes, spelled⟩
    rw [parseLine, spelled]
    exact run_complete closes name args

theorem parse_command_line_iff (command : Command) (call : Call) :
    Script.parseCommand command = .ok call ↔
      call.line = command.line ∧ call.source = command.text ∧
        parseLine command.text = .ok (call.name, call.args) := by
  obtain ⟨name, args, line, source⟩ := call
  unfold Script.parseCommand
  constructor
  · intro parsed
    split at parsed
    · rename_i found given read
      cases parsed
      exact ⟨rfl, rfl, read⟩
    · cases parsed
  · rintro ⟨rfl, rfl, read⟩
    rw [read]

/-- Commands are accepted exactly by their grammar. A command is read as a call if
and only if its text lexes without a fault to the token form of that call, at most
one semicolon and the end of the line; line and source are passed on unchanged. -/
theorem parse_command_ok_iff (command : Command) (call : Call) :
    Script.parseCommand command = .ok call ↔
      call.line = command.line ∧ call.source = command.text ∧
        ∃ ending, CallEnd ending ∧
          Token.lex command.text = (callTokens call.name call.args ++ ending ++ [Token.eof], none) := by
  rw [parse_command_line_iff, parse_line_ok_iff]
  simp only [Token.lex, gather_clean_iff]

end Tabscript.CallGrammar
