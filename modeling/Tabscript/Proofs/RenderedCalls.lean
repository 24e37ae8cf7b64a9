import Tabscript.Proofs.ArgumentSlots
import Tabscript.Proofs.CallGrammar
import Tabscript.Proofs.StatementReader

/-! From the text of a command to the statement it becomes. Texts pass through two
escape schemes and numbers are passed on as written, so what a statement denotes
is decided only by reading it again. Whatever command is accepted, its statement
is a single call of the operation and denotes the values of the arguments. -/
namespace Tabscript.RenderedCalls
open TokenStream CallGrammar StatementReader ArgumentSlots

variable {command : Command} {call : Call} {op : Operation}

/-- An argument whose number, if it is one, is written as numbers are. -/
def NumbersWritten : Expr → Prop
  | .number s => NumberText s
  | _ => True

private theorem expr_tokens_subset {e : Expr} {args : List Expr} (member : e ∈ args) :
    exprTokens e ⊆ argTokens args := by
  induction args with
  | nil => cases member
  | cons first more ih =>
    cases more with
    | nil =>
      cases List.mem_singleton.mp member
      rw [argTokens]
      exact List.Subset.refl _
    | cons second rest =>
      rw [arg_tokens_cons]
      rcases List.mem_cons.mp member with rfl | later
      · exact List.subset_append_left _ _
      · exact fun t inside => List.mem_append_right _ (List.mem_cons_of_mem _ (ih later inside))

/-- The numbers among the arguments of a command are number tokens of its text. -/
theorem parsed_number_item (parsed : Script.parseCommand command = .ok call) {s : String}
    (member : .number s ∈ call.args) : .ok (.number s) ∈ Token.items command.text.toList := by
  obtain ⟨_, _, read⟩ := (parse_command_line_iff command call).mp parsed
  obtain ⟨ending, _, spelled⟩ := (parse_line_ok_iff _ _ _).mp read
  have inside : Token.number s ∈ callTokens call.name call.args := by
    have written := expr_tokens_subset member (List.mem_singleton_self (Token.number s))
    simp [callTokens, written]
  rw [spelled]
  exact List.mem_map_of_mem (by simp [inside])

theorem parsed_numbers_written (parsed : Script.parseCommand command = .ok call) :
    ∀ e ∈ call.args, NumbersWritten e := by
  intro e member
  cases e with
  | number s => exact items_number (parsed_number_item parsed member)
  | str | ident | call => trivial

theorem stands_readable {slot : Slot} {e : Expr} {v : Value} (stands : StandsFor slot e v)
    (written : NumbersWritten e) : Readable v := by
  cases stands with
  | quotedText | bareText | numberText | bareFlag | quotedFlag => trivial
  | bareNumber | bareInteger => exact written
  | quotedNumber _ numeral | quotedInteger _ numeral => exact numeral

private theorem members_readable {args : List Expr} {items : List Literal} (members : List.Forall₂ Member args items)
    (written : ∀ e ∈ args, NumbersWritten e) : ∀ item ∈ items, ReadableLiteral item := by
  induction members with
  | nil => simp
  | cons head tail ih =>
    rename_i e item args items
    intro other inside
    rcases List.mem_cons.mp inside with rfl | later
    · cases head with
      | text | flag => trivial
      | number s => exact written (.number s) (by simp)
    · exact ih (fun e member => written e (by simp [member])) other later

/-- Values supplied by arguments whose numbers are written as numbers can all be read back. -/
theorem supplies_readable {params : List Param} {args : List Expr} {values : List Value}
    (supplies : Supplies params args values) (written : ∀ e ∈ args, NumbersWritten e) :
    ∀ v ∈ values, Readable v := by
  induction supplies with
  | nil => simp
  | given stands _ ih =>
    intro other inside
    rcases List.mem_cons.mp inside with rfl | later
    · exact stands_readable stands (written _ (by simp))
    · exact ih (fun e member => written e (by simp [member])) other later
  | omitted _ _ ih =>
    intro other inside
    rcases List.mem_cons.mp inside with rfl | later
    · trivial
    · exact ih (by simp) other later
  | rest _ _ members _ ih =>
    intro other inside
    rcases List.mem_cons.mp inside with rfl | later
    · exact members_readable members written
    · exact ih (by simp) other later

theorem catalog_names : ∀ entry ∈ catalog, isName entry.name = true := by
  decide +kernel

/-- No text of a command can leave its place in the generated program. The statement
of an accepted command is one call of its operation, with as many arguments as the
entry has parameters, and read back it denotes in order what the arguments of the
command stand for at these parameters. -/
theorem rendered_call_reads_back (parsed : Script.parseCommand command = .ok call)
    (valid : call.validate = .ok op) :
    ∃ entry values, lookup call.name = some entry ∧ Supplies entry.params call.args values ∧
      values.length = entry.params.length ∧ readStatement op.render = some (call.name, values) := by
  obtain ⟨entry, found, named, supplies⟩ := validate_supplies valid
  obtain ⟨listed, same⟩ := lookup_some found
  have readable := supplies_readable supplies (parsed_numbers_written parsed)
  have read := read_statement_render op (named ▸ catalog_names entry listed) readable
  rw [named, same] at read
  exact ⟨entry, op.args, found, supplies, supplies_length supplies, read⟩

/-- A text that tries to close the call, a line feed written as an escape, and a flag in capitals. -/
theorem rendered_call_reads_back_add_column :
    ∃ entry values, lookup "add_column" = some entry ∧
      Supplies entry.params [.str "a\");\\", .str "x, \n", .number "-2.5e3", .ident "TRUE"] values ∧
      values.length = entry.params.length ∧
      readStatement ("add_column(\"a\\\");\\\\\", " ++ Text.braced "\"x, \\n\", -2.5e3, true" ++ ");") =
        some ("add_column", values) := by
  let line := "add_column(\"a\\\");\\\\\", \"x, \\n\", -2.5e3, TRUE);"
  have parsed : Script.parseCommand ⟨1, line⟩ =
      .ok ⟨"add_column", [.str "a\");\\", .str "x, \n", .number "-2.5e3", .ident "TRUE"], 1, line⟩ :=
    (parse_command_line_iff _ _).mpr
      ⟨rfl, rfl, (parse_line_ok_iff _ _ _).mpr ⟨[.semicolon], .inr rfl, by decide +kernel⟩⟩
  have valid : Call.validate ⟨"add_column", [.str "a\");\\", .str "x, \n", .number "-2.5e3", .ident "TRUE"], 1, line⟩ =
      .ok ⟨"add_column", [.text "a\");\\", .list [.text "x, \n", .number "-2.5e3", .flag true]]⟩ := by
    decide +kernel
  exact rendered_call_reads_back parsed valid

end Tabscript.RenderedCalls
