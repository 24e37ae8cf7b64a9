import Tabscript.Proofs.WrittenCalls

/-! Arguments as messages show them, read as arguments again.

Messages quote a text by a scheme of their own, which has more escapes than a script knows.
On the characters that it shows as themselves, or by an escape of scripts, it is one of the
ways to write a text, and the rest of an argument is shown as the tokens it is made of with a
blank behind each comma. What is shown is then a line in the layout of a call, and the shown
form of an argument leads back to it. -/
namespace Tabscript.ShownArguments
open Token CallGrammar WrittenTokens WrittenCalls

/-- A character that a message shows as itself or by an escape that scripts have too. -/
def Plain (c : Char) : Prop :=
  Text.quoteChar c = [c] ∨ Text.quoteChar c ∈ [['\\', 'n'], ['\\', 't'], ['\\', '\"'], ['\\', '\\']]

instance : DecidablePred Plain :=
  fun c => inferInstanceAs (Decidable (Text.quoteChar c = [c] ∨ _))

mutual

/-- An argument whose texts, however deep, consist of plain characters. -/
def Legible : Expr → Prop
  | .str text => ∀ c ∈ text.toList, Plain c
  | .number _ => True
  | .ident _ => True
  | .call _ args => AllLegible args

def AllLegible : List Expr → Prop
  | [] => True
  | e :: more => Legible e ∧ AllLegible more

end

/-- The call of an operation with the arguments as they are shown. -/
def shownCall (name : String) (args : List Expr) : String :=
  name ++ "(" ++ String.intercalate ", " (args.map Expr.shown) ++ ")"

section Texts

variable {c : Char}

private theorem plain_form (plain : Plain c) : CharForm c (Text.quoteChar c) := by
  unfold Plain Text.quoteChar at *
  by_cases quote : c = '\"'
  · subst quote
    exact .quote
  by_cases backslash : c = '\\'
  · subst backslash
    exact .backslash
  by_cases feed : c = '\n'
  · subst feed
    exact .feed
  by_cases tab : c = '\t'
  · subst tab
    exact .tab
  have raw : CharForm c [c] := .raw quote backslash
  by_cases carriage : c = '\r'
  · subst carriage
    simp at plain
  by_cases null : c = '\x00'
  · subst null
    simp at plain
  cases hidden : Text.isHidden c with
  | true => simp [quote, backslash, feed, tab, carriage, null, hidden] at plain
  | false =>
    simp only [quote, backslash, feed, tab, carriage, null]
    exact raw

private theorem plain_text_form {cs : List Char} (plain : ∀ c ∈ cs, Plain c) :
    TextForm cs (cs.flatMap Text.quoteChar) := by
  induction cs with
  | nil => exact .nil
  | cons c more ih =>
    obtain ⟨first, others⟩ := List.forall_mem_cons.mp plain
    rw [List.flatMap_cons]
    exact .cons (plain_form first) (ih others)

end Texts

section Layouts

variable {tokens : List Token} {rest line gap : List Char}

theorem layout_gap (blank : Blank gap) (layout : Layout tokens line) : Layout tokens (gap ++ line) := by
  have wider {inner : List Char} (inside : Blank inner) : Blank (gap ++ inner) := by
    intro c member
    rcases List.mem_append.mp member with front | back
    · exact blank c front
    · exact inside c back
  cases layout with
  | bare inside => exact .bare (wider inside)
  | comment inside rest =>
    rw [← List.append_assoc]
    exact .comment (wider inside) rest
  | token inside written behind =>
    rw [← List.append_assoc]
    exact .token (wider inside) written behind

/-- A token directly behind what stands before it. -/
theorem layout_next {t : Token} {form : List Char} (written : Form t form) (behind : Layout tokens rest) :
    Layout (t :: tokens) (form ++ rest) := by
  have none : Blank [] := List.forall_mem_nil _
  exact .token none written behind

@[simp] theorem shown_all_cons (e f : Expr) (more : List Expr) :
    Expr.shownAll (e :: f :: more) = e.shown ++ ", " ++ Expr.shownAll (f :: more) := by
  rw [Expr.shownAll]
  exact List.cons_ne_nil f more

theorem shown_all_joined (args : List Expr) : Expr.shownAll args = String.intercalate ", " (args.map Expr.shown) := by
  induction args with
  | nil => rfl
  | cons e more ih =>
    cases more with
    | nil => rw [Expr.shownAll, List.map_cons, List.map_nil, String.intercalate_singleton]
    | cons f more => rw [shown_all_cons, ih, List.map_cons, List.map_cons, List.map_cons, String.intercalate_cons_cons]

mutual

/-- What is shown of an argument is a layout of its tokens. -/
private theorem shown_layout {tokens : List Token} {rest : List Char} (e : Expr) (legible : Legible e)
    (behind : Layout tokens rest) :
    Layout (exprTokens e ++ tokens) (e.shown.toList ++ rest) := by
  match e with
  | .str text =>
    rw [exprTokens, Expr.shown, Text.quoted, String.toList_ofList]
    exact layout_next (.str (plain_text_form legible)) behind
  | .number text =>
    rw [exprTokens, Expr.shown]
    exact layout_next (.number text) behind
  | .ident text =>
    rw [exprTokens, Expr.shown]
    exact layout_next (.ident text) behind
  | .call name args =>
    have inside := shown_all_layout args legible (layout_next .rparen behind)
    rw [exprTokens, Expr.shown]
    simpa using layout_next (.ident name) (layout_next .lparen inside)

theorem shown_all_layout {tokens : List Token} {rest : List Char} (args : List Expr) (legible : AllLegible args)
    (behind : Layout tokens rest) :
    Layout (argTokens args ++ tokens) ((Expr.shownAll args).toList ++ rest) := by
  match args with
  | [] => exact behind
  | [e] =>
    rw [argTokens, Expr.shownAll]
    exact shown_layout e legible.1 behind
  | e :: f :: more =>
    have blank : Blank [' '] := by decide
    have later := layout_gap blank (shown_all_layout (f :: more) legible.2 behind)
    rw [arg_tokens_cons, shown_all_cons]
    simpa using shown_layout e legible.1 (layout_next .comma later)

end

end Layouts

/-- The call that is shown is the call that is read. -/
theorem shown_call_read {name : String} {args : List Expr} (named : IsName name.toList) (formed : AllFormed args)
    (legible : AllLegible args) : Call.parseLine (shownCall name args) = .ok (name, args) := by
  have bare : Layout [] [] := .bare (List.forall_mem_nil _)
  have layout : Layout (exprTokens (.call name args)) (shownCall name args).toList := by
    have shown := shown_layout (.call name args) legible bare
    rw [Expr.shown, shown_all_joined, List.append_nil, List.append_nil] at shown
    exact shown
  have proper := expr_tokens_proper (.call name args) ⟨named, formed⟩
  have read := items_layout layout proper (expr_tokens_chain (.call name args))
  refine (parse_line_ok_iff _ name args).mpr ⟨[], .inl rfl, ?_⟩
  rw [List.append_nil, ← call_tokens_eq]
  exact read

theorem shown_inj {e f : Expr} (formed : Formed e ∧ Formed f) (legible : Legible e ∧ Legible f)
    (same : e.shown = f.shown) : e = f := by
  have named : IsName "f".toList := ⟨'f', [], rfl, rfl, List.forall_mem_nil _⟩
  have first : Call.parseLine (shownCall "f" [e]) = .ok ("f", [e]) :=
    shown_call_read named ⟨formed.1, trivial⟩ ⟨legible.1, trivial⟩
  have second : Call.parseLine (shownCall "f" [f]) = .ok ("f", [f]) :=
    shown_call_read named ⟨formed.2, trivial⟩ ⟨legible.2, trivial⟩
  have text : shownCall "f" [e] = shownCall "f" [f] := by
    rw [shownCall, shownCall, List.map_cons, List.map_cons, same, List.map_nil]
  rw [text, second] at first
  cases first
  rfl

/-- Arguments are read back from what messages show of them, between the parentheses of any
call; so no two arguments are shown alike. -/
theorem shown_arguments_are_read_back :
    (∀ (name : String) (args : List Expr), IsName name.toList → AllFormed args → AllLegible args → ∀ line,
      Script.parseCommand ⟨line, shownCall name args⟩ = .ok ⟨name, args, line, shownCall name args⟩) ∧
    (∀ e f : Expr, Formed e → Legible e → Formed f → Legible f → e.shown = f.shown → e = f) := by
  refine ⟨fun name args named formed legible line => ?_, fun e f formed legible formed' legible' same => ?_⟩
  · exact (parse_command_line_iff _ _).mpr ⟨rfl, rfl, shown_call_read named formed legible⟩
  · exact shown_inj ⟨formed, formed'⟩ ⟨legible, legible'⟩ same

/-- A nested call without arguments beside a text with every escape. -/
theorem shown_arguments_are_read_back_nested :
    shownCall "f" [.str "\n\t\"\\#é", .call "g" []] = "f(\"\\n\\t\\\"\\\\#é\", g())" ∧
    Script.parseCommand ⟨2, "f(\"\\n\\t\\\"\\\\#é\", g())"⟩ =
      .ok ⟨"f", [.str "\n\t\"\\#é", .call "g" []], 2, "f(\"\\n\\t\\\"\\\\#é\", g())"⟩ := by
  have shown : shownCall "f" [.str "\n\t\"\\#é", .call "g" []] = "f(\"\\n\\t\\\"\\\\#é\", g())" := by
    decide +kernel
  have legible : AllLegible [.str "\n\t\"\\#é", .call "g" []] := by
    refine ⟨?_, trivial, trivial⟩
    have plain : ['\n', '\t', '\"', '\\', '#', 'é'].all (fun c => decide (Plain c)) = true := by
      decide +kernel
    exact fun c member => of_decide_eq_true (List.all_eq_true.mp plain c member)
  have formed : AllFormed [.str "\n\t\"\\#é", .call "g" []] :=
    ⟨trivial, ⟨⟨'g', [], rfl, rfl, List.forall_mem_nil _⟩, trivial⟩, trivial⟩
  have read := shown_arguments_are_read_back.1 "f" _ ⟨'f', [], rfl, rfl, List.forall_mem_nil _⟩ formed legible 2
  rw [shown] at read
  exact ⟨shown, read⟩

end Tabscript.ShownArguments
