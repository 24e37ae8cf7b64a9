import Tabscript.Http
import Tabscript.Session
import Tabscript.Proofs.RevisedRecords

/-! Outcomes and their payloads.

Whoever reads the text of an outcome has the outcome again, whichever parts it has and
whatever a program has written into them. An outcome can also be told in other texts: a part
that is missing may be left out or be `null`. -/
namespace Tabscript.OutcomePayloads
open Json JsonTexts WrittenJson
open RevisedRecords (read_added read_listed)

/-- An outcome is found in its own members, whichever of them are written. -/
theorem draft_read (o : Outcome) : Outcome.ofDraft (draft o.toJson) = .ok o := by
  -- One computation for each pattern of missing parts.
  rcases o with ⟨success, _ | output, _ | warnings, _ | error, _ | code⟩ <;> rfl

theorem text_read {o : Outcome} {text : String} (written : IsText (draft o.toJson) text) :
    Outcome.ofText text = .ok o := by
  rw [Outcome.ofText, decode_text written, draft_read]

/-- No member has the given name. -/
def Unnamed (key : String) (members : List (Name × Draft)) : Prop :=
  ∀ m ∈ members, m.1 ≠ .text (.ok key)

/-- The part of an outcome with a name. -/
def part (o : Outcome) (key : String) : Option String :=
  if key = "output" then o.output
  else if key = "warnings" then o.warnings
  else if key = "error" then o.error
  else if key = "code" then o.code
  else none

/-- What members come to: an outcome and the fields that were seen, or a fault. -/
abbrev Gathered := Except Json.Fault (Outcome × List String)

/-- Readings with the same result, of which one may have seen a member that the other has not. -/
inductive SameReading (key : String) : Gathered → Gathered → Prop where
  | fault (f : Json.Fault) : SameReading key (.error f) (.error f)
  | outcome (o : Outcome) {all others : List String} (same : ∀ k, k ≠ key → (k ∈ all ↔ k ∈ others)) :
    SameReading key (.ok (o, all)) (.ok (o, others))

section Missing

variable {key field : String} {o p : Outcome} {v : Draft} {seen others : List String}
variable {before after members : List (Name × Draft)}

private theorem field_listed (known : key ∈ Outcome.fields) : Outcome.record.field? key = some key :=
  if_pos (List.contains_iff_mem.mpr known)

private theorem field_unlisted (unknown : key ∉ Outcome.fields) : Outcome.record.field? key = none :=
  if_neg fun found => unknown (List.contains_iff_mem.mp found)

/-- What a member does: it is a fault by itself, it is passed over, or it is read into a field. -/
private theorem member_cases (name : Name) (v : Draft) :
    (∃ f, ∀ seen o more, Outcome.record.readMembers seen o ((name, v) :: more) = .error f) ∨
    (∀ seen o more, Outcome.record.readMembers seen o ((name, v) :: more) = Outcome.record.readMembers seen o more) ∨
    ∃ field ∈ Outcome.fields, name = .text (.ok field) ∧ ∀ seen o more,
      Outcome.record.readMembers seen o ((name, v) :: more) =
        if seen.contains field then .error (.misfit ("duplicate field `" ++ field ++ "`"))
        else (Outcome.record.assign field v o).bind fun p => Outcome.record.readMembers (field :: seen) p more := by
  cases name with
  | defect d => exact .inl ⟨d.kept, fun seen o more => by rw [Record.readMembers, Name.read]⟩
  | text spelled =>
    cases spelled with
    | error f => exact .inl ⟨f, fun seen o more => by rw [Record.readMembers, Name.read]⟩
    | ok key =>
      by_cases known : key ∈ Outcome.fields
      · refine .inr (.inr ⟨key, known, rfl, fun seen o more => ?_⟩)
        simp only [Record.readMembers, Name.read, field_listed known]
        cases Outcome.record.assign key v o <;> rfl
      · cases clean : v.skipFault with
        | some f =>
          refine .inl ⟨f, fun seen o more => ?_⟩
          simp only [Record.readMembers, Name.read, field_unlisted known, clean]
        | none => exact .inr (.inl fun seen o more => read_added (field_unlisted known) clean)

private theorem assign_null (known : key ∈ Outcome.fields) (optional : key ≠ "success") (missing : part o key = none) :
    Outcome.record.assign key .null o = .ok o := by
  obtain ⟨success, output, warnings, error, code⟩ := o
  simp only [Outcome.fields, List.mem_cons, List.not_mem_nil, or_false] at known
  rcases known with rfl | rfl | rfl | rfl | rfl
  · exact absurd rfl optional
  all_goals
    cases missing
    rfl

private theorem map_ok {α β : Type} {read : Except Json.Fault α} {f : α → β} {b : β} (mapped : read.map f = .ok b) :
    ∃ a, f a = b := by
  cases read with
  | error e => cases mapped
  | ok a => exact ⟨a, Except.ok.inj mapped⟩

private theorem assign_other (listed : field ∈ Outcome.fields) (other : field ≠ key)
    (assigned : Outcome.record.assign field v o = .ok p) : part p key = part o key := by
  simp only [Outcome.fields, List.mem_cons, List.not_mem_nil, or_false] at listed
  rcases listed with rfl | rfl | rfl | rfl | rfl
  all_goals
    obtain ⟨value, rfl⟩ := map_ok assigned
    simp only [part, if_neg (Ne.symm other)]

private theorem unnamed_rest {m : Name × Draft} (absent : Unnamed key (m :: members)) : Unnamed key members :=
  fun n member => absent n (List.mem_cons_of_mem m member)

/-- Whether a name was seen before makes no difference to members of other names. -/
private theorem read_seen (absent : Unnamed key members) (same : ∀ k, k ≠ key → (k ∈ seen ↔ k ∈ others)) :
    SameReading key (Outcome.record.readMembers seen o members) (Outcome.record.readMembers others o members) := by
  induction members generalizing seen others o with
  | nil => exact .outcome o same
  | cons m more ih =>
    obtain ⟨name, v⟩ := m
    have rest := unnamed_rest absent
    rcases member_cases name v with ⟨f, fault⟩ | skipped | ⟨field, _, named, step⟩
    · rw [fault, fault]
      exact .fault f
    · rw [skipped, skipped]
      exact ih rest same
    · have other : field ≠ key := by
        rintro rfl
        exact absent (name, v) List.mem_cons_self named
      have twice : seen.contains field = others.contains field := by
        rw [Bool.eq_iff_iff, List.contains_iff_mem, List.contains_iff_mem]
        exact same field other
      rw [step, step, twice]
      split
      · exact .fault _
      · cases Outcome.record.assign field v o with
        | error f => exact .fault f
        | ok p =>
          apply ih rest
          intro k different
          rw [List.mem_cons, List.mem_cons, same k different]

/-- A member that is `null` is read like one that is not there. The induction is on what stands
before it, which leaves the part of that name missing. -/
theorem read_null (optional : key ≠ "success") (absent : Unnamed key (before ++ after)) (fresh : key ∉ seen)
    (missing : part o key = none) :
    SameReading key (Outcome.record.readMembers seen o (before ++ (.text (.ok key), .null) :: after))
      (Outcome.record.readMembers seen o (before ++ after)) := by
  induction before generalizing seen o with
  | nil =>
    rw [List.nil_append, List.nil_append]
    by_cases known : key ∈ Outcome.fields
    · rw [read_listed (field_listed known) fresh (assign_null known optional missing)]
      apply read_seen absent
      intro k different
      rw [List.mem_cons, or_iff_right different]
    · rw [read_added (field_unlisted known) rfl]
      exact read_seen absent fun _ _ => Iff.rfl
  | cons m more ih =>
    obtain ⟨name, v⟩ := m
    have rest := unnamed_rest absent
    rw [List.cons_append, List.cons_append]
    rcases member_cases name v with ⟨f, fault⟩ | skipped | ⟨field, listed, named, step⟩
    · rw [fault, fault]
      exact .fault f
    · rw [skipped, skipped]
      exact ih rest fresh missing
    · have other : field ≠ key := by
        rintro rfl
        exact absent (name, v) List.mem_cons_self named
      rw [step, step]
      split
      · exact .fault _
      · cases assigned : Outcome.record.assign field v o with
        | error f => exact .fault f
        | ok p =>
          have kept := assign_other listed other assigned
          exact ih rest (List.not_mem_cons_of_ne_of_not_mem (Ne.symm other) fresh) (kept.trans missing)

theorem null_read (optional : key ≠ "success") (absent : Unnamed key (before ++ after)) :
    Outcome.ofDraft (.object (before ++ (.text (.ok key), .null) :: after) none) =
      Outcome.ofDraft (.object (before ++ after) none) := by
  have missing : part ⟨false, none, none, none, none⟩ key = none := by simp [part]
  have alike := read_null optional absent List.not_mem_nil missing
  simp only [Outcome.ofDraft, Record.read]
  revert alike
  generalize Outcome.record.readMembers [] _ (before ++ (.text (.ok key), .null) :: after) = first
  generalize Outcome.record.readMembers [] _ (before ++ after) = second
  intro alike
  cases alike with
  | fault f => rfl
  | @outcome o all others same =>
    have given : all.contains "success" = others.contains "success" := by
      rw [Bool.eq_iff_iff, List.contains_iff_mem, List.contains_iff_mem]
      exact same "success" (Ne.symm optional)
    simp only [given, Outcome.missingSuccess]

end Missing

/-- The text of an outcome, as it is printed or sent, gives the outcome back; so does the text of
one that was read. A member that is `null` may as well be missing, unless it is `success`. -/
theorem payload_gives_outcome_back :
    (∀ o : Outcome, Outcome.ofText o.toJson.compact = .ok o ∧ Outcome.ofText o.toJson.indented = .ok o ∧
      Outcome.ofText (CommandLine.outcomeTranscript o).stdout = .ok o ∧
      Outcome.ofText (Http.outcomeResponse o).body = .ok o) ∧
    (∀ text o, Outcome.ofText text = .ok o →
      Outcome.ofText o.toJson.compact = Outcome.ofText text ∧ Outcome.ofText o.toJson.indented = Outcome.ofText text) ∧
    ∀ key before after text text', key ≠ "success" → Unnamed key (before ++ after) →
      IsText (.object (before ++ (.text (.ok key), .null) :: after) none) text →
      IsText (.object (before ++ after) none) text' → Outcome.ofText text = Outcome.ofText text' := by
  have compact (o : Outcome) : Outcome.ofText o.toJson.compact = .ok o := text_read (compact_text o.toJson)
  have indented (o : Outcome) : Outcome.ofText o.toJson.indented = .ok o := text_read (indented_text o.toJson)
  refine ⟨fun o => ⟨compact o, indented o, ?_, compact o⟩, ?_, ?_⟩
  · exact text_read (text_and_blanks (indented_text o.toJson) (one_space rfl))
  · intro text o read
    rw [read]
    exact ⟨compact o, indented o⟩
  · intro key before after text text' optional absent written written'
    rw [Outcome.ofText, Outcome.ofText, decode_text written, decode_text written', null_read optional absent]

theorem payload_gives_outcome_back_without_warnings :
    Outcome.ofText (Outcome.toJson ⟨true, some "a\t\x07\"é\n", none, none, none⟩).compact =
      .ok ⟨true, some "a\t\x07\"é\n", none, none, none⟩ ∧
    IsText (draft (.object [("success", .bool true), ("warnings", .null)]))
      (Text.braced "\"success\":true,\"warnings\":null") ∧
    IsText (draft (.object [("success", .bool true)])) (Text.braced "\"success\":true") ∧
    Outcome.ofText (Text.braced "\"success\":true,\"warnings\":null") =
      Outcome.ofText (Text.braced "\"success\":true") := by
  obtain ⟨own, _, null⟩ := payload_gives_outcome_back
  have written : IsText (draft (.object [("success", .bool true), ("warnings", .null)]))
      (Text.braced "\"success\":true,\"warnings\":null") := compact_text _
  have written' : IsText (draft (.object [("success", .bool true)])) (Text.braced "\"success\":true") := compact_text _
  have absent : Unnamed "warnings" ([(.text (.ok "success"), .bool true)] ++ []) := by simp [Unnamed]
  exact ⟨(own _).1, written, written', null "warnings" _ _ _ _ (by decide) absent written written'⟩

end Tabscript.OutcomePayloads
