import Tabscript.Proofs.CallVerdicts
import Tabscript.Proofs.RenderedCalls

/-! The numbers of a command in the generated program.

A number is checked as a decimal and then written into a statement as it stands, where it
is read by other rules. The two readings are compared for every argument that a numeric
parameter is given. An integer is always in range as a decimal; what the program computes
with is that number unless the text is one of the two exceptions. -/
namespace Tabscript.NumericArguments
open Token TokenStream WrittenTokens CallGrammar StatementReader ArgumentSlots NumeralReadings CallVerdicts
  RenderedCalls

variable {command : Command} {call : Call} {op : Operation} {params : List Param} {args : List Expr}
variable {values : List Value} {p : Param} {place : Nat} {e : Expr} {v : Value} {n : String}

/-- A parameter whose argument is written into the statement as a bare number. -/
def IsNumeric (p : Param) : Prop :=
  p.slot = .number ∨ p.slot = .integer

/-- A numeric parameter is given the argument at its own place. -/
private theorem supplies_numeric (supplies : Supplies params args values) (faces : params[place]? = some p)
    (numeric : IsNumeric p) :
    ∃ e v, args[place]? = some e ∧ values[place]? = some v ∧ StandsFor p.slot e v := by
  induction supplies generalizing place with
  | nil => cases faces
  | given stands _ ih =>
    cases place with
    | zero =>
      cases faces
      exact ⟨_, _, rfl, rfl, stands⟩
    | succ before => exact ih faces
  | omitted flag _ ih =>
    cases place with
    | zero =>
      cases faces
      rcases numeric with number | integer
      · cases flag.symm.trans number
      · cases flag.symm.trans integer
    | succ before =>
      obtain ⟨e, v, none, _⟩ := ih faces
      cases none
  | rest list _ _ _ ih =>
    cases place with
    | zero =>
      cases faces
      rcases numeric with number | integer
      · cases list.symm.trans number
      · cases list.symm.trans integer
    | succ before =>
      obtain ⟨e, v, none, _⟩ := ih faces
      cases none

private theorem stands_numeral (numeric : IsNumeric p) (stands : StandsFor p.slot e v) (numeral : NumberArgument e n) :
    v = .number n := by
  rcases numeric with kind | kind
  all_goals
    rw [kind] at stands
    cases stands <;> cases numeral <;> rfl

/-- The texts of numbers in an accepted command all come from the scanner. -/
theorem parsed_numeral_shape (parsed : Script.parseCommand command = .ok call) (member : e ∈ call.args)
    (numeral : NumberArgument e n) : IsNumber n.toList ∨ Hollow n.toList := by
  cases numeral with
  | bare s => exact items_number_shape (parsed_number_item parsed member)
  | quoted s token =>
    have inside : .ok (.number (Text.trimmed s)) ∈ items (Text.trimmed s).toList := by simp [token]
    exact items_number_shape inside

theorem suits_numeral (numeric : IsNumeric p) (suits : Suits p.slot e) :
    ∃ n, NumberArgument e n ∧ (p.slot = .integer → IntegerText n) := by
  rcases numeric with kind | kind
  · rw [kind] at suits ⊢
    obtain ⟨n, numeral⟩ := suits
    exact ⟨n, numeral, nofun⟩
  · rw [kind] at suits
    obtain ⟨n, numeral, whole⟩ := suits
    exact ⟨n, numeral, fun _ => whole⟩

theorem valid_suited (valid : call.validate = .ok op) :
    ∃ entry, lookup call.name = some entry ∧ ∀ index, SuitedAt entry.params call.args index := by
  obtain ⟨entry, found, accepted, _⟩ := validate_ok_iff.mp valid
  obtain ⟨listed, named⟩ := lookup_some found
  rcases validate_settled listed named accepted with ⟨index, d, q, reason, _, _, refused⟩ | ⟨suited, _⟩
  · rw [refused] at valid
    cases valid
  · exact ⟨entry, found, suited⟩

theorem accepted_statement_read (parsed : Script.parseCommand command = .ok call) (valid : call.validate = .ok op) :
    readStatement op.render = some (call.name, op.args) := by
  obtain ⟨entry, found, named, supplies⟩ := validate_supplies valid
  obtain ⟨listed, same⟩ := lookup_some found
  have read := read_statement_render op (named ▸ catalog_names entry listed)
    (supplies_readable supplies (parsed_numbers_written parsed))
  rwa [named, same] at read

/-- Every number of an accepted command stands in its statement as it was written, without the
blanks around a quoted one. The program computes with the number that the user wrote
unless the text has no digit before its exponent or is read as octal, and at an integer
parameter the user's number fits 32 bits. Numbers are the exact values of their texts:
nothing is said about rounding, nor about a literal like `1e999` that is beyond every
type of the program's language. -/
theorem written_number_survives_iff (parsed : Script.parseCommand command = .ok call)
    (valid : call.validate = .ok op) :
    ∃ entry values,
      lookup call.name = some entry ∧ readStatement op.render = some (call.name, values) ∧
      ∀ (place : Nat) p, entry.params[place]? = some p → IsNumeric p →
        ∃ e n, call.args[place]? = some e ∧ NumberArgument e n ∧ values[place]? = some (Value.number n) ∧
          (Survives n.toList ↔ ¬ (Hollow n.toList ∨ ReadAsOctal n.toList)) ∧
          (p.slot = .integer → ∃ k : ℤ, DecimalReading n.toList k ∧ -2147483648 ≤ k ∧ k ≤ 2147483647) := by
  obtain ⟨entry, found, _, supplies⟩ := validate_supplies valid
  obtain ⟨other, again, suited⟩ := valid_suited valid
  cases found.symm.trans again
  refine ⟨entry, op.args, found, accepted_statement_read parsed valid, ?_⟩
  intro place p faces numeric
  obtain ⟨e, v, here, given, stands⟩ := supplies_numeric supplies faces numeric
  obtain ⟨q, facing, suits⟩ := suited place e here
  have inside := (List.getElem?_eq_some_iff.mp faces).1
  rw [paramAt, Nat.min_eq_left (by omega)] at facing
  cases faces.symm.trans facing
  obtain ⟨n, numeral, whole⟩ := suits_numeral numeric suits
  rw [stands_numeral numeric stands numeral] at given
  have shape := parsed_numeral_shape parsed (List.mem_of_getElem? here) numeral
  refine ⟨e, n, here, numeral, given, survives_iff shape, fun integer => ?_⟩
  obtain ⟨_, _, _, k, spelled, least, most⟩ := whole integer
  exact ⟨k, spelled_integer_reading spelled, least, most⟩

/-- A quoted number between blanks with a zero in front, and a number with a fraction and an exponent. -/
theorem written_number_survives_iff_scale_data :
    ∃ entry values, lookup "scale_data" = some entry ∧
      readStatement "scale_data(\"a\", +07, -1.5e+3);" = some ("scale_data", values) ∧
      ∀ (place : Nat) p, entry.params[place]? = some p → IsNumeric p →
        ∃ e n, [Expr.str "a", .str " +07 ", .number "-1.5e+3"][place]? = some e ∧ NumberArgument e n ∧
          values[place]? = some (Value.number n) ∧
          (Survives n.toList ↔ ¬ (Hollow n.toList ∨ ReadAsOctal n.toList)) ∧
          (p.slot = .integer → ∃ k : ℤ, DecimalReading n.toList k ∧ -2147483648 ≤ k ∧ k ≤ 2147483647) := by
  let line := "scale_data(\"a\", \" +07 \", -1.5e+3)"
  have parsed : Script.parseCommand ⟨1, line⟩ =
      .ok ⟨"scale_data", [.str "a", .str " +07 ", .number "-1.5e+3"], 1, line⟩ :=
    (parse_command_line_iff _ _).mpr ⟨rfl, rfl, (parse_line_ok_iff _ _ _).mpr ⟨[], .inl rfl, by decide +kernel⟩⟩
  have valid : Call.validate ⟨"scale_data", [.str "a", .str " +07 ", .number "-1.5e+3"], 1, line⟩ =
      .ok ⟨"scale_data", [.text "a", .number "+07", .number "-1.5e+3"]⟩ := by
    decide +kernel
  exact written_number_survives_iff parsed valid

/-- Numbers that do not survive: a window of ten becomes one of eight, and a ratio is accepted
that no program can be built with. -/
theorem accepted_numbers_are_misread :
    (∃ call op, Script.parseCommand ⟨1, "rolling_mean(\"a\", 010)"⟩ = .ok call ∧ call.validate = .ok op ∧
      op.render = "rolling_mean(\"a\", 010);" ∧
      DecimalReading "010".toList 10 ∧ LiteralReading "010".toList 8 ∧ ¬ Survives "010".toList) ∧
    (∃ call op, Script.parseCommand ⟨1, "split_data(.e5)"⟩ = .ok call ∧ call.validate = .ok op ∧
      op.render = "split_data(.e5);" ∧ ∀ x, ¬ LiteralReading ".e5".toList x) := by
  have zeroTen : IsDigits "010".toList := ⟨by decide, List.all_eq_true.mp rfl⟩
  refine ⟨⟨⟨"rolling_mean", [.str "a", .number "010"], 1, "rolling_mean(\"a\", 010)"⟩,
      ⟨"rolling_mean", [.text "a", .number "010"]⟩, ?_, by decide +kernel, by decide +kernel, ?_, ?_, ?_⟩,
    ⟨"split_data", [.number ".e5"], 1, "split_data(.e5)"⟩, ⟨"split_data", [.number ".e5"]⟩, ?_, by decide +kernel,
      by decide +kernel, ?_⟩
  · exact (parse_command_line_iff _ _).mpr ⟨rfl, rfl,
      (parse_line_ok_iff _ _ _).mpr ⟨[], .inl rfl, by decide +kernel⟩⟩
  · exact spelled_integer_reading ⟨[], "010".toList, rfl, .inl rfl, zeroTen, by decide⟩
  · have octal : UnsignedLiteral ('0' :: ['1', '0']) 8 := .octal (List.all_eq_true.mp rfl)
    exact ⟨[], "010".toList, 8, rfl, .inl rfl, octal, rfl⟩
  · have number : IsNumber "010".toList := ⟨[], "010".toList, [], rfl, .inl rfl, .whole zeroTen, .none⟩
    rw [survives_iff (.inl number), not_not]
    exact .inr ⟨[], ['1', '0'], rfl, .inl rfl, List.all_eq_true.mp rfl, by decide⟩
  · exact (parse_command_line_iff _ _).mpr ⟨rfl, rfl,
      (parse_line_ok_iff _ _ _).mpr ⟨[], .inl rfl, by decide +kernel⟩⟩
  · intro x
    exact hollow_unread ⟨[], ['e', '5'], rfl, .inl rfl,
      unsigned_exponent (.inl rfl) ⟨by decide, List.all_eq_true.mp rfl⟩, by decide⟩

end Tabscript.NumericArguments
