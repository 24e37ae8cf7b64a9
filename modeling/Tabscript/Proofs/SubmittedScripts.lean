import Mathlib.Data.List.Basic
import Tabscript.Http
import Tabscript.Proofs.EncodedTexts

/-! The two readers of a submission. The one for requests reads a record with a single
field and passes over everything else; the one for saved submissions keeps the whole value
and looks the script up in it. They agree on objects that can be kept. A script that is
sent as the only item of an array has no name to look it up by, and what a request may hold
beside its script is more than a reader who keeps it can take. -/
namespace Tabscript.SubmittedScripts
open Json

/-- The value that a text begins with, as far as it can be read. -/
def value (text : String) : Draft :=
  (read text.toList).1

/-- A text that is one JSON value between blanks. -/
def IsJson (text : String) : Prop :=
  ∃ rest, (read text.toList).2 = some rest ∧ skipSpace rest = []

/-- The script that a request with the text as its body asks to be run. -/
def Sent (text script : String) : Prop :=
  decodeFront Submission.ofDraft (Http.bodyChars false (Text.units (Text.encode text))) = .ok (some script)

def isObject : Draft → Bool
  | .object _ _ => true
  | _ => false

/-- The values that stand somewhere in a value, with the number of arrays and objects around them. -/
inductive Within : Nat → Draft → Draft → Prop where
  | here (d : Draft) : Within 0 d d
  | item {depth : Nat} {part v : Draft} {items : List Draft} {defect : Option Defect} (member : v ∈ items)
    (inside : Within depth part v) : Within (depth + 1) part (.array items defect)
  | member {depth : Nat} {part v : Draft} {key : Name} {members : List (Name × Draft)} {defect : Option Defect}
    (member : (key, v) ∈ members) (inside : Within depth part v) : Within (depth + 1) part (.object members defect)

/-- A name of a member that consists of characters. -/
def OfCharacters (key : Name) : Prop :=
  ∃ text, key = .text (.ok text)

/-- What can be kept at a depth: a number that is not too large, a string of characters, and
an array or object that is not nested too deeply, with names of characters. -/
def Held (limit depth : Nat) : Draft → Prop
  | .number value => ∃ n, value = .ok n
  | .string text => ∃ s, text = .ok s
  | .array _ _ => depth + 1 < limit
  | .object members _ => depth + 1 < limit ∧ ∀ key v, (key, v) ∈ members → OfCharacters key
  | _ => True

/-- A value of which every part can be kept. -/
def Holdable (limit : Nat) (d : Draft) : Prop :=
  ∀ depth part, Within depth part d → Held limit depth part

variable {limit room : Nat} {d v : Draft} {key : Name} {items : List Draft} {members : List (Name × Draft)}
variable {defect : Option Defect} {text script : String}

section Keeping

/-- One step down, one level less is left. -/
theorem held_deeper (limit depth : Nat) (part : Draft) : Held limit (depth + 1) part ↔ Held (limit - 1) depth part := by
  have room : depth + 1 + 1 < limit ↔ depth + 1 < limit - 1 := by omega
  cases part with
  | array | object => simp only [Held, room]
  | null | bool | number | string | defect => rfl

theorem holdable_array :
    Holdable limit (.array items defect) ↔ 1 < limit ∧ ∀ v ∈ items, Holdable (limit - 1) v := by
  constructor
  · intro holdable
    refine ⟨?_, fun v member depth part inside => ?_⟩
    · have whole : 0 + 1 < limit := holdable 0 _ (.here _)
      exact whole
    · exact (held_deeper limit depth part).mp (holdable _ _ (.item member inside))
  · rintro ⟨shallow, holdable⟩ depth part inside
    cases inside with
    | here => exact shallow
    | item member inside => exact (held_deeper limit _ part).mpr (holdable _ member _ _ inside)

theorem holdable_object :
    Holdable limit (.object members defect) ↔
      1 < limit ∧ ∀ key v, (key, v) ∈ members → OfCharacters key ∧ Holdable (limit - 1) v := by
  constructor
  · intro holdable
    have whole : 0 + 1 < limit ∧ ∀ key v, (key, v) ∈ members → OfCharacters key := holdable 0 _ (.here _)
    refine ⟨whole.1, fun key v member => ⟨whole.2 key v member, fun depth part inside => ?_⟩⟩
    exact (held_deeper limit depth part).mp (holdable _ _ (.member member inside))
  · rintro ⟨shallow, holdable⟩ depth part inside
    cases inside with
    | here => exact ⟨shallow, fun key v member => (holdable key v member).1⟩
    | member member inside => exact (held_deeper limit _ part).mpr ((holdable _ _ member).2 _ _ inside)

/-- A value that is neither an array nor an object has no part but itself. -/
theorem holdable_scalar (array : ∀ items defect, d ≠ .array items defect)
    (object : ∀ members defect, d ≠ .object members defect) : Holdable limit d ↔ Held limit 0 d := by
  constructor
  · exact fun holdable => holdable 0 d (.here d)
  · intro held depth part inside
    cases inside with
    | here => exact held
    | item => exact absurd rfl (array _ _)
    | member => exact absurd rfl (object _ _)

private theorem holdable_members (key : Name) (v : Draft) (more : List (Name × Draft)) :
    (∀ k w, (k, w) ∈ (key, v) :: more → OfCharacters k ∧ Holdable room w) ↔
      (OfCharacters key ∧ Holdable room v) ∧ ∀ k w, (k, w) ∈ more → OfCharacters k ∧ Holdable room w := by
  constructor
  · exact fun all => ⟨all key v List.mem_cons_self, fun k w member => all k w (List.mem_cons_of_mem _ member)⟩
  · rintro ⟨first, others⟩ k w member
    rcases List.mem_cons.mp member with same | later
    · cases same
      exact first
    · exact others k w later

mutual

/-- What is passed over without fault can be kept exactly if every part of it can. -/
private theorem keep_fault_iff (room : Nat) (d : Draft) (clean : d.skipFault = none) :
    d.keepFault room = none ↔ Holdable room d := by
  match d with
  | .null | .bool _ | .number (.ok _) | .number (.error _) | .string (.ok _) | .string (.error _) =>
    rw [holdable_scalar (by simp) (by simp)]
    simp [Draft.keepFault, Held]
  | .array items defect =>
    rw [Draft.skipFault, Option.or_eq_none_iff, Option.map_eq_none_iff] at clean
    obtain ⟨inside, rfl⟩ := clean
    rw [Draft.keepFault, holdable_array, ← keep_items_iff (room - 1) items inside]
    split
    · simp only [reduceCtorEq, false_iff, not_and]
      omega
    · simp only [Option.map_none, Option.or_none]
      exact (and_iff_right (by omega)).symm
  | .object members defect =>
    rw [Draft.skipFault, Option.or_eq_none_iff, Option.map_eq_none_iff] at clean
    obtain ⟨inside, rfl⟩ := clean
    rw [Draft.keepFault, holdable_object, ← keep_members_iff (room - 1) members inside]
    split
    · simp only [reduceCtorEq, false_iff, not_and]
      omega
    · simp only [Option.map_none, Option.or_none]
      exact (and_iff_right (by omega)).symm
  | .defect d => rw [Draft.skipFault] at clean; cases clean

private theorem keep_items_iff (room : Nat) (items : List Draft) (clean : Draft.skipItems items = none) :
    Draft.keepItems room items = none ↔ ∀ v ∈ items, Holdable room v := by
  match items with
  | [] => simp [Draft.keepItems]
  | v :: more =>
    rw [Draft.skipItems, Option.or_eq_none_iff] at clean
    rw [Draft.keepItems, Option.or_eq_none_iff, List.forall_mem_cons, keep_fault_iff room v clean.1,
      keep_items_iff room more clean.2]

private theorem keep_members_iff (room : Nat) (members : List (Name × Draft))
    (clean : Draft.skipMembers members = none) :
    Draft.keepMembers room members = none ↔
      ∀ key v, (key, v) ∈ members → OfCharacters key ∧ Holdable room v := by
  match members with
  | [] => simp [Draft.keepMembers]
  | (.text t, v) :: more =>
    rw [Draft.skipMembers, Option.or_eq_none_iff] at clean
    rw [Draft.keepMembers, holdable_members]
    cases t with
    | error f => simp [Name.read, OfCharacters]
    | ok text =>
      have named : OfCharacters (.text (.ok text)) := ⟨text, rfl⟩
      have kept := keep_fault_iff room v clean.1
      have others := keep_members_iff room more clean.2
      simp only [Name.read, Option.or_eq_none_iff, kept, others, named, true_and]
  | (.defect d, v) :: more => rw [Draft.skipMembers] at clean; cases clean

end

end Keeping

section Members

variable {seen seen' : List String} {a b : Option String} {more : List (Name × Draft)}

/-- The names under which a script may be submitted. -/
def NamesScript (name : String) : Prop :=
  name = "command" ∨ name = "code"

/-- A member that the reader of requests passes over. -/
def Ignored (m : Name × Draft) : Prop :=
  ∃ name, m.1 = .text (.ok name) ∧ ¬ NamesScript name ∧ m.2.skipFault = none

/-- The members of a request with a script: one of them is the script, and the others are
passed over. -/
def Carries (script : String) (members : List (Name × Draft)) : Prop :=
  ∃ before name after, members = before ++ (.text (.ok name), .string (.ok script)) :: after ∧ NamesScript name ∧
    (∀ m ∈ before, Ignored m) ∧ ∀ m ∈ after, Ignored m

private theorem name_read (named : key.read = .ok text) : key = .text (.ok text) := by
  cases key with
  | text t =>
    cases named
    rfl
  | defect d => cases named

private theorem field_cases (name : String) :
    (Submission.record.field? name = none ∧ ¬ NamesScript name) ∨
      (Submission.record.field? name = some "command" ∧ NamesScript name) := by
  by_cases named : NamesScript name
  · refine .inr ⟨?_, named⟩
    rcases named with rfl | rfl <;> rfl
  · refine .inl ⟨?_, named⟩
    obtain ⟨other, another⟩ := not_or.mp named
    simp [Submission.record, other, another]

/-- A member is passed over, or it is the script and the first of its kind. -/
theorem read_member (ran : Submission.record.readMembers seen a ((key, v) :: more) = .ok (b, seen')) :
    (Ignored (key, v) ∧ Submission.record.readMembers seen a more = .ok (b, seen')) ∨
      ∃ name given, key = .text (.ok name) ∧ NamesScript name ∧ "command" ∉ seen ∧
        v.toOption (Draft.toText "a string") = .ok given ∧
        Submission.record.readMembers ("command" :: seen) given more = .ok (b, seen') := by
  rw [Record.readMembers] at ran
  split at ran
  · cases ran
  · rename_i name named
    rcases field_cases name with ⟨unknown, other⟩ | ⟨known, script⟩
    · rw [unknown] at ran
      dsimp only at ran
      split at ran
      · cases ran
      · rename_i clean
        exact .inl ⟨⟨name, name_read named, other, clean⟩, ran⟩
    · rw [known] at ran
      dsimp only at ran
      split at ran
      · cases ran
      · rename_i fresh
        split at ran
        · cases ran
        · rename_i given assigned
          exact .inr ⟨name, given, name_read named, script, by simpa using fresh, assigned, ran⟩

private theorem read_members_rest (ran : Submission.record.readMembers ["command"] a members = .ok (b, seen')) :
    b = a ∧ ∀ m ∈ members, Ignored m := by
  induction members with
  | nil =>
    cases ran
    exact ⟨rfl, List.forall_mem_nil _⟩
  | cons m more ih =>
    rcases read_member ran with ⟨ignored, later⟩ | ⟨_, _, _, _, fresh, _, _⟩
    · obtain ⟨same, others⟩ := ih later
      exact ⟨same, List.forall_mem_cons.mpr ⟨ignored, others⟩⟩
    · exact absurd (List.mem_singleton_self _) fresh

private theorem given_text (given : v.toOption (Draft.toText "a string") = .ok (some script)) :
    v = .string (.ok script) := by
  cases v with
  | null => cases given
  | string t =>
    cases t with
    | error f => cases given
    | ok s =>
      cases given
      rfl
  | bool | number | array | object | defect => cases given

theorem read_members_script (ran : Submission.record.readMembers [] none members = .ok (some script, seen')) :
    Carries script members := by
  induction members with
  | nil => cases ran
  | cons m more ih =>
    obtain ⟨key, v⟩ := m
    rcases read_member ran with ⟨ignored, later⟩ | ⟨name, given, rfl, named, _, assigned, later⟩
    · obtain ⟨before, name, after, rfl, named, front, back⟩ := ih later
      exact ⟨(key, v) :: before, name, after, rfl, named, List.forall_mem_cons.mpr ⟨ignored, front⟩, back⟩
    · obtain ⟨rfl, ignored⟩ := read_members_rest later
      rw [given_text assigned]
      exact ⟨[], name, more, rfl, named, List.forall_mem_nil _, ignored⟩

/-- The only values that a script is taken out of: an object with one member for it, or an
array with nothing else in it. -/
theorem sent_value (sent : Submission.ofDraft d = .ok (some script)) :
    (∃ members, d = .object members none ∧ Carries script members) ∨ d = .array [.string (.ok script)] none := by
  have ran : ∃ fields, Submission.record.read none d = .ok (some script, fields) := by
    rw [Submission.ofDraft] at sent
    cases found : Submission.record.read none d with
    | error f =>
      rw [found] at sent
      cases sent
    | ok result =>
      obtain ⟨given, fields⟩ := result
      rw [found] at sent
      cases sent
      exact ⟨fields, rfl⟩
  obtain ⟨fields, ran⟩ := ran
  cases d with
  | object members defect =>
    unfold Record.read at ran
    dsimp only at ran
    split at ran
    · cases ran
    · cases ran
    · rename_i found
      cases ran
      exact .inl ⟨members, rfl, read_members_script found⟩
  | array items defect =>
    unfold Record.read at ran
    dsimp only at ran
    split at ran
    · cases ran
    · cases ran
    · rename_i found
      cases ran
      cases items with
      | nil => cases found
      | cons v more =>
        refine .inr ?_
        have single : Submission.record.readItems [] none ["command"] (v :: more) = .ok (some script, fields) := found
        rw [Record.readItems] at single
        split at single
        · cases single
        · rename_i given assigned
          cases more with
          | nil =>
            cases single
            rw [given_text assigned]
          | cons second rest => cases single
  | null | bool | number | string | defect => cases ran

end Members

section Lookup

variable {name : String} {before after : List (Name × Draft)}

theorem lookup_absent (absent : ∀ m ∈ members, m.1 ≠ .text (.ok name)) :
    Draft.get? name (.object members defect) = none := by
  rw [Draft.get?, Option.map_eq_none_iff, List.find?_eq_none]
  rintro ⟨key, v⟩ member found
  refine absent (key, v) (List.mem_reverse.mp member) ?_
  cases key with
  | text t =>
    cases t with
    | error f => cases found
    | ok text =>
      have same : text = name := beq_iff_eq.mp found
      rw [same]
  | defect d => cases found

/-- The last member of a name is the one that is found. -/
theorem lookup_last (last : ∀ m ∈ after, m.1 ≠ .text (.ok name)) :
    Draft.get? name (.object (before ++ (.text (.ok name), v) :: after) defect) = some v := by
  have behind : Draft.get? name (.object after defect) = none := lookup_absent last
  rw [Draft.get?, Option.map_eq_none_iff] at behind
  rw [Draft.get?, List.reverse_append, List.reverse_cons, List.append_assoc, List.find?_append, behind]
  simp

theorem ignored_named (named : NamesScript name) (ignored : ∀ m ∈ members, Ignored m) :
    ∀ m ∈ members, m.1 ≠ .text (.ok name) := by
  intro m member same
  obtain ⟨other, written, unnamed, _⟩ := ignored m member
  cases same.symm.trans written
  exact unnamed named

end Lookup

section Scripts

private theorem body_chars_plain (escaped : Bool) (cs : List Char) : Http.bodyChars escaped (cs.map some) = cs := by
  induction cs generalizing escaped with
  | nil => rfl
  | cons c more ih => rw [List.map_cons, Http.bodyChars, ih]

/-- A body that is a text is read as that text. -/
theorem sent_iff : Sent text script ↔ Submission.ofDraft (value text) = .ok (some script) := by
  have chars : Text.units (Text.encode text) = text.toList.map some := by
    have read := EncodedTexts.units_chars text.toList []
    rw [List.append_nil] at read
    exact read.trans (List.append_nil _)
  rw [Sent, chars, body_chars_plain, decodeFront, value]

/-- The script of a saved submission, by the value that its text is. -/
theorem script_of_json (json : IsJson text) :
    Submission.script text = match (value text).keepFault Submission.nestingLimit with
      | some f => .error (.json f)
      | none => match ((value text).get? "command").or ((value text).get? "code") with
        | none => .error .noCommand
        | some (.string (.ok s)) => .ok s
        | some _ => .error .notText := by
  obtain ⟨rest, left, ends⟩ := json
  have whole : decode Submission.keep text = Submission.keep (value text) := by
    rw [decode, value]
    dsimp only
    rw [left]
    dsimp only
    rw [ends]
    cases Submission.keep (read text.toList).1 <;> rfl
  rw [Submission.script, whole, Submission.keep]
  cases (value text).keepFault Submission.nestingLimit <;> rfl

theorem skip_members_clean (clean : ∀ m ∈ members, OfCharacters m.1 ∧ m.2.skipFault = none) :
    Draft.skipMembers members = none := by
  induction members with
  | nil => rfl
  | cons m more ih =>
    obtain ⟨⟨⟨text, named⟩, passed⟩, others⟩ := List.forall_mem_cons.mp clean
    obtain ⟨key, v⟩ := m
    cases named
    rw [Draft.skipMembers, Option.or_eq_none_iff]
    exact ⟨passed, ih others⟩

/-- What carries a script can be passed over as a whole. -/
theorem carries_clean (carries : Carries script members) : Draft.skipFault (.object members none) = none := by
  obtain ⟨before, name, after, rfl, _, front, back⟩ := carries
  have clean {m : Name × Draft} (ignored : Ignored m) : OfCharacters m.1 ∧ m.2.skipFault = none := by
    obtain ⟨other, named, _, passed⟩ := ignored
    exact ⟨⟨other, named⟩, passed⟩
  have passed : Draft.skipMembers (before ++ (.text (.ok name), .string (.ok script)) :: after) = none := by
    apply skip_members_clean
    intro m member
    rcases List.mem_append.mp member with ahead | later
    · exact clean (front m ahead)
    rcases List.mem_cons.mp later with rfl | behind
    · exact ⟨⟨name, rfl⟩, rfl⟩
    · exact clean (back m behind)
  rw [Draft.skipFault, passed]
  rfl

/-- The script is found by whichever of its names it has. -/
theorem carries_lookup (carries : Carries script members) :
    (Draft.get? "command" (.object members none)).or (Draft.get? "code" (.object members none)) =
      some (.string (.ok script)) := by
  obtain ⟨before, name, after, rfl, named, front, back⟩ := carries
  rcases named with rfl | rfl
  · rw [lookup_last (ignored_named (.inl rfl) back)]
    rfl
  · have absent : ∀ m ∈ before ++ (.text (.ok "code"), .string (.ok script)) :: after,
        m.1 ≠ .text (.ok "command") := by
      intro m member
      rcases List.mem_append.mp member with ahead | later
      · exact ignored_named (.inl rfl) front m ahead
      rcases List.mem_cons.mp later with rfl | behind
      · simp
      · exact ignored_named (.inl rfl) back m behind
    rw [lookup_absent absent, lookup_last (ignored_named (.inr rfl) back)]
    rfl

end Scripts

/-- A script that is sent in an object is found in the saved text as well, if every part of
the object can be kept. Otherwise the saved text is refused: as JSON if some part cannot be
kept, and for want of a name if the script was sent in an array. -/
theorem saved_script_is_the_sent_one (json : IsJson text) (sent : Sent text script) :
    (isObject (value text) = true → Holdable Submission.nestingLimit (value text) →
      Submission.script text = .ok script) ∧
    (isObject (value text) = true → ¬ Holdable Submission.nestingLimit (value text) →
      ∃ fault, Submission.script text = .error (.json fault)) ∧
    (isObject (value text) = false → value text = .array [.string (.ok script)] none ∧
      Submission.script text = .error .noCommand) := by
  rw [script_of_json json]
  rcases sent_value (sent_iff.mp sent) with ⟨members, split, carries⟩ | single
  · have kept := keep_fault_iff Submission.nestingLimit _ (carries_clean carries)
    rw [split]
    refine ⟨fun _ holdable => ?_, fun _ unheld => ?_, fun other => ?_⟩
    · rw [kept.mpr holdable, carries_lookup carries]
    · cases found : Draft.keepFault Submission.nestingLimit (.object members none) with
      | none => exact absurd (kept.mp found) unheld
      | some f => exact ⟨f, rfl⟩
    · cases other
  · rw [single]
    refine ⟨fun object => ?_, fun object => ?_, fun _ => ⟨rfl, rfl⟩⟩
    · cases object
    · cases object

/-- A script under its other name, beside a member that is passed over. -/
def codeText : String := Text.braced "\"n\":[\"\",null],\"code\":\"f()\"" ++ " "

theorem saved_script_is_the_sent_one_code :
    IsJson codeText ∧ Sent codeText "f()" ∧ Submission.script codeText = .ok "f()" := by
  have json : IsJson codeText := ⟨[' '], by decide +kernel, by decide +kernel⟩
  have sent : Sent codeText "f()" := by
    rw [sent_iff]
    decide +kernel
  have holdable : Holdable Submission.nestingLimit (value codeText) :=
    (keep_fault_iff _ _ (by decide +kernel)).mp (by decide +kernel)
  exact ⟨json, sent, (saved_script_is_the_sent_one json sent).1 (by decide +kernel) holdable⟩

/-- A script beside a number that is too large to be kept. -/
def hugeNumber : String := Text.braced "\"code\":\"f()\",\"n\":1e999"

/-- A script beside a string with half a character. -/
def loneSurrogate : String := Text.braced "\"code\":\"f()\",\"n\":\"\\ud800\""

/-- Scripts that are sent but not found in the saved text: one without a name, and two beside
a member that no reader can keep. -/
theorem sent_scripts_are_not_saved :
    (IsJson "[\"f()\"]" ∧ Sent "[\"f()\"]" "f()" ∧ Submission.script "[\"f()\"]" = .error .noCommand) ∧
    ∀ text ∈ [hugeNumber, loneSurrogate],
      IsJson text ∧ Sent text "f()" ∧ Submission.script text = .error (.json .malformed) := by
  simp only [sent_iff, List.forall_mem_cons]
  refine ⟨⟨⟨[], ?_, rfl⟩, ?_, ?_⟩, ⟨⟨[], ?_, rfl⟩, ?_, ?_⟩, ⟨⟨[], ?_, rfl⟩, ?_, ?_⟩, List.forall_mem_nil _⟩
  all_goals decide +kernel

end Tabscript.SubmittedScripts
