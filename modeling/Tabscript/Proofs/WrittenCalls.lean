import Mathlib.Data.List.Chain
import Tabscript.Proofs.CallGrammar
import Tabscript.Proofs.WrittenTokens

/-! A call may be written in many ways: with blanks anywhere between its tokens, with
or without a semicolon, with a comment behind it, and with more or fewer escapes in
its texts. All of them are read as the same call. The layout of a line is described
over the token form of the call, so that the reader of calls is met only at the end. -/
namespace Tabscript.WrittenCalls
open Token TokenStream CallGrammar WrittenTokens

/-- The ways to put tokens on a line. -/
inductive Layout : List Token → List Char → Prop where
  | bare {gap : List Char} (blank : Blank gap) : Layout [] gap
  | comment {gap : List Char} (blank : Blank gap) (rest : List Char) : Layout [] (gap ++ '#' :: rest)
  | token {t : Token} {more : List Token} {gap form rest : List Char} (blank : Blank gap)
    (written : Form t form) (behind : Layout more rest) : Layout (t :: more) (gap ++ (form ++ rest))

/-- The ways to write a call as a text. -/
def Written (name : String) (args : List Expr) (text : String) : Prop :=
  ∃ ending, CallEnd ending ∧ Layout (callTokens name args ++ ending) text.toList

mutual

/-- An argument whose names are names and whose numbers are numbers; a text may be any. -/
def Formed : Expr → Prop
  | .str _ => True
  | .number text => IsNumber text.toList
  | .ident text => IsName text.toList
  | .call name args => IsName name.toList ∧ AllFormed args

def AllFormed : List Expr → Prop
  | [] => True
  | e :: more => Formed e ∧ AllFormed more

end

/-- The tokens that are one fixed character. -/
def isMark : Token → Bool
  | .lparen | .rparen | .comma | .semicolon => true
  | _ => false

/-- Of two neighbours in a command, one at least is a mark, so that they cannot run
together. -/
def Neighbours (t u : Token) : Prop :=
  isMark t = true ∨ isMark u = true

section Layouts

variable {tokens : List Token} {gap rest line : List Char} {t : Token}

private theorem gap_apart (blank : Blank gap) (apart : begins continues rest = false) :
    begins continues (gap ++ rest) = false := by
  cases gap with
  | nil => exact apart
  | cons c more => exact blank_continues (blank c (by simp))

/-- A line that begins with a mark, or with nothing but a comment, continues no token. -/
private theorem layout_apart (layout : Layout tokens line) (marked : ∀ u ∈ tokens.head?, isMark u = true) :
    begins continues line = false := by
  cases layout with
  | bare blank =>
    rw [← List.append_nil line]
    exact gap_apart blank rfl
  | comment blank rest => exact gap_apart blank rfl
  | @token t more gap form rest blank written behind =>
    apply gap_apart blank
    have mark : isMark t = true := marked t rfl
    cases written with
    | ident | number | str => cases mark
    | lparen | rparen | comma | semicolon => rfl

private theorem form_inside {form : List Char} (written : Form t form) : t ≠ .eof := by
  cases written <;> nofun

private theorem form_apart {form : List Char} (written : Form t form) (layout : Layout tokens line)
    (marked : ∀ u ∈ tokens.head?, Neighbours t u) : Apart t line := by
  cases written with
  | ident | number =>
    apply layout_apart layout
    intro u member
    exact (marked u member).resolve_left nofun
  | str | lparen | rparen | comma | semicolon => trivial

/-- The items of a line are the tokens laid out on it, whatever the layout. -/
theorem items_layout (layout : Layout tokens line) (proper : ∀ t ∈ tokens, Proper t)
    (chain : tokens.IsChain Neighbours) : items line = (tokens ++ [Token.eof]).map .ok := by
  induction layout with
  | @bare gap blank =>
    have ends : next gap = .ok (.eof, []) := by
      have read := next_gap blank []
      rw [List.append_nil] at read
      exact read
    exact items_end ends
  | @comment gap blank rest =>
    have ends : next (gap ++ '#' :: rest) = .ok (.eof, []) := next_gap blank _
    exact items_end ends
  | @token t more gap form rest blank written behind ih =>
    have marked : ∀ u ∈ more.head?, Neighbours t u := (List.isChain_cons.mp chain).1
    have read := next_form blank written (proper t (by simp)) (form_apart written behind marked)
    have later := ih (fun u member => proper u (by simp [member])) (List.isChain_cons.mp chain).2
    simp [items_token read (form_inside written), later]

end Layouts

section Trees

private theorem chain_mark {front back : List Token} (mark : Token) (marks : isMark mark = true)
    (first : front.IsChain Neighbours) (second : back.IsChain Neighbours) :
    (front ++ mark :: back).IsChain Neighbours := by
  apply List.isChain_append.mpr
  refine ⟨first, List.isChain_cons.mpr ⟨fun _ _ => .inl marks, second⟩, ?_⟩
  intro t _ u head
  cases head
  exact .inr marks

mutual

theorem expr_tokens_chain (e : Expr) : (exprTokens e).IsChain Neighbours := by
  match e with
  | .str text | .number text | .ident text =>
    rw [exprTokens]
    exact .singleton _
  | .call name args =>
    rw [exprTokens]
    have inside := chain_mark .rparen rfl (arg_tokens_chain args) .nil
    have named : [Token.ident name].IsChain Neighbours := .singleton _
    exact chain_mark .lparen rfl named inside

private theorem arg_tokens_chain (args : List Expr) : (argTokens args).IsChain Neighbours := by
  match args with
  | [] =>
    rw [argTokens]
    exact .nil
  | [e] =>
    rw [argTokens]
    exact expr_tokens_chain e
  | e :: f :: more =>
    rw [arg_tokens_cons]
    exact chain_mark .comma rfl (expr_tokens_chain e) (arg_tokens_chain (f :: more))

end

mutual

theorem expr_tokens_proper (e : Expr) (formed : Formed e) : ∀ t ∈ exprTokens e, Proper t := by
  intro t member
  match e with
  | .str text =>
    rw [exprTokens, List.mem_singleton] at member
    rw [member]
    trivial
  | .number text | .ident text =>
    rw [exprTokens, List.mem_singleton] at member
    rw [member]
    exact formed
  | .call name args =>
    obtain ⟨named, inside⟩ := formed
    rw [exprTokens] at member
    simp only [List.mem_cons, List.mem_append, List.not_mem_nil, or_false] at member
    rcases member with rfl | rfl | later | rfl
    · exact named
    · trivial
    · exact arg_tokens_proper args inside t later
    · trivial

private theorem arg_tokens_proper (args : List Expr) (formed : AllFormed args) : ∀ t ∈ argTokens args, Proper t := by
  intro t member
  match args with
  | [] =>
    rw [argTokens] at member
    cases member
  | [e] =>
    rw [argTokens] at member
    exact expr_tokens_proper e formed.1 t member
  | e :: f :: more =>
    rw [arg_tokens_cons] at member
    simp only [List.mem_append, List.mem_cons] at member
    rcases member with first | rfl | later
    · exact expr_tokens_proper e formed.1 t first
    · trivial
    · exact arg_tokens_proper (f :: more) formed.2 t later

end

end Trees

/-- However a call is written, it is read as that call: blanks, escapes, a
semicolon and a comment leave no trace, and its texts come back unchanged. -/
theorem written_call_is_read {name : String} {args : List Expr} (command : Command)
    (named : IsName name.toList) (formed : AllFormed args) (written : Written name args command.text) :
    Script.parseCommand command = .ok ⟨name, args, command.line, command.text⟩ := by
  obtain ⟨ending, closes, layout⟩ := written
  have chain : (callTokens name args ++ ending).IsChain Neighbours := by
    rw [← call_tokens_eq]
    rcases closes with rfl | rfl
    · rw [List.append_nil]
      exact expr_tokens_chain (.call name args)
    · exact chain_mark .semicolon rfl (expr_tokens_chain (.call name args)) .nil
  have proper : ∀ t ∈ callTokens name args ++ ending, Proper t := by
    rw [← call_tokens_eq]
    intro t member
    rcases List.mem_append.mp member with inside | behind
    · exact expr_tokens_proper (.call name args) ⟨named, formed⟩ t inside
    · rcases closes with rfl | rfl
      · cases behind
      · rw [List.mem_singleton.mp behind]
        trivial
  have read : Call.parseLine command.text = .ok (name, args) :=
    (parse_line_ok_iff command.text name args).mpr ⟨ending, closes, items_layout layout proper chain⟩
  exact (parse_command_line_iff command _).mpr ⟨rfl, rfl, read⟩

/-- A nested call, a wide blank, an escaped line feed beside a raw one, and a number sign both in a text and
before a comment. -/
theorem written_call_is_read_nested :
    Written "f" [.str "#\n\n\"", .call "g" [.number "-1.5e3"]] "f\u3000( \"#\n\\n\\\"\",g(-1.5e3 )); # (" ∧
    Script.parseCommand ⟨3, "f\u3000( \"#\n\\n\\\"\",g(-1.5e3 )); # ("⟩ =
      .ok ⟨"f", [.str "#\n\n\"", .call "g" [.number "-1.5e3"]], 3,
        "f\u3000( \"#\n\\n\\\"\",g(-1.5e3 )); # ("⟩ := by
  have none : Blank [] := nofun
  have one : Blank [' '] := by decide
  have wide : Blank ['\u3000'] := by decide
  have digits : IsNumber "-1.5e3".toList :=
    ⟨['-'], ['1'] ++ '.' :: ['5'], 'e' :: ([] ++ ['3']), by decide +kernel, .inr ⟨'-', rfl, rfl⟩,
      .pointed ⟨nofun, List.forall_mem_singleton.mpr rfl⟩ (List.forall_mem_singleton.mpr rfl),
      .some (.inl rfl) (.inl rfl) ⟨nofun, List.forall_mem_singleton.mpr rfl⟩⟩
  have written : Written "f" [.str "#\n\n\"", .call "g" [.number "-1.5e3"]]
      "f\u3000( \"#\n\\n\\\"\",g(-1.5e3 )); # (" := by
    refine ⟨[.semicolon], .inr rfl, ?_⟩
    have inside : TextForm "#\n\n\"".toList (['#'] ++ (['\n'] ++ (['\\', 'n'] ++ (['\\', '\"'] ++ [])))) :=
      .cons (.raw (by decide) (by decide)) (.cons (.raw (by decide) (by decide)) (.cons .feed (.cons .quote .nil)))
    exact .token none (.ident "f") (.token wide .lparen (.token one (.str inside) (.token none .comma
      (.token none (.ident "g") (.token none .lparen (.token none (.number "-1.5e3") (.token one .rparen
        (.token none .rparen (.token none .semicolon (.comment one [' ', '(']))))))))))
  have formed : AllFormed [.str "#\n\n\"", .call "g" [.number "-1.5e3"]] :=
    ⟨trivial, ⟨⟨'g', [], rfl, rfl, nofun⟩, digits, trivial⟩, trivial⟩
  exact ⟨written, written_call_is_read ⟨3, _⟩ ⟨'f', [], rfl, rfl, nofun⟩ formed written⟩

end Tabscript.WrittenCalls
