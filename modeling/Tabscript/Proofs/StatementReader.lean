import Tabscript.Operation
import Tabscript.Proofs.TokenStream

/-! A reader of call statements by the token rules of the generated language. It
takes a statement character by character and knows nothing of how statements are
rendered: a literal ends at its first unescaped quote, a run of other characters
at the next comma, brace or parenthesis, and nothing may follow the semicolon.
What is proved is that every rendered operation comes back value by value, so no
text can end its literal early and no number can run into what follows it. -/
namespace Tabscript.StatementReader
open Token TokenStream

/-- A call that is being read: its name, the arguments read so far and the members
of the list that is open, if one is. Both lists have their last element first. -/
structure Frame where
  name : String
  args : List Value
  members : Option (List Literal)

/-- A member of a list as an argument of its own. -/
def ofLiteral : Literal → Value
  | .text s => .text s
  | .number s => .number s
  | .flag b => .flag b

namespace Frame

def push (frame : Frame) (value : Value) : Frame :=
  { frame with args := value :: frame.args }

/-- Takes a whole item: a member of the open list, or else an argument. -/
def add (frame : Frame) (item : Literal) : Frame :=
  match frame.members with
  | none => frame.push (ofLiteral item)
  | some members => { frame with members := some (item :: members) }

def openList (frame : Frame) : Frame :=
  { frame with members := some [] }

end Frame

/-- How far the reading of a statement has come. What is held is reversed. -/
inductive Progress where
  | naming (held : List Char)
  /-- Directly after an opening parenthesis or brace. -/
  | opened (frame : Frame)
  /-- After a comma. -/
  | due (frame : Frame)
  | text (frame : Frame) (held : List Char)
  /-- After a backslash inside a string literal. -/
  | escape (frame : Frame) (held : List Char)
  /-- Inside a run of other characters. -/
  | bare (frame : Frame) (held : List Char)
  /-- After a whole item. -/
  | filled (frame : Frame)
  | closed (name : String) (args : List Value)
  | ended (name : String) (args : List Value)

/-- The character that a backslash and the character after it stand for. -/
def decodeEscape (c : Char) : Option Char :=
  if c = '\"' then some '\"'
  else if c = '\\' then some '\\'
  else if c = 'n' then some '\n'
  else if c = 'r' then some '\r'
  else if c = 't' then some '\t'
  else none

/-- What a run of characters denotes: a truth value, or else a number. -/
def bareItem (run : List Char) : Literal :=
  if run = ['t', 'r', 'u', 'e'] then .flag true
  else if run = ['f', 'a', 'l', 's', 'e'] then .flag false
  else .number (String.ofList run)

/-- A character that ends a run. -/
def isDelimiter (c : Char) : Bool :=
  c == ',' || c == '}' || c == ')'

namespace Progress

/-- A character after a whole item. -/
def separate (frame : Frame) (c : Char) : Option Progress :=
  match frame.members with
  | none =>
    if c = ',' then some (.due frame)
    else if c = ')' then some (.closed frame.name frame.args.reverse)
    else none
  | some members =>
    if c = ',' then some (.due frame)
    else if c = '}' then some (.filled ⟨frame.name, .list members.reverse :: frame.args, none⟩)
    else none

/-- A character where an item has to begin. Lists do not nest. -/
def begin (frame : Frame) (c : Char) : Option Progress :=
  if c = '\"' then some (.text frame [])
  else if c = '{' then if frame.members.isNone then some (.opened frame.openList) else none
  else if isDelimiter c then none
  else some (.bare frame [c])

/-- Takes one character. A line break inside a literal is refused. -/
def step : Progress → Char → Option Progress
  | .naming held, c =>
    if c = '(' then
      if begins startsName held.reverse then some (.opened ⟨String.ofList held.reverse, [], none⟩) else none
    else if isNameChar c then some (.naming (c :: held))
    else none
  | .opened frame, c => if c = ')' || c = '}' then separate frame c else begin frame c
  | .due frame, c => if c = ' ' then some (.due frame) else begin frame c
  | .text frame held, c =>
    if c = '\"' then some (.filled (frame.add (.text (String.ofList held.reverse))))
    else if c = '\\' then some (.escape frame held)
    else if c = '\n' || c = '\r' then none
    else some (.text frame (c :: held))
  | .escape frame held, c => (decodeEscape c).map fun d => .text frame (d :: held)
  | .bare frame held, c =>
    if isDelimiter c then separate (frame.add (bareItem held.reverse)) c else some (.bare frame (c :: held))
  | .filled frame, c => separate frame c
  | .closed name args, c => if c = ';' then some (.ended name args) else none
  | .ended _ _, _ => none

def run (progress : Progress) (cs : List Char) : Option Progress :=
  cs.foldlM step progress

end Progress

/-- The name and the arguments of the call statement that a text consists of. -/
def readStatement (text : String) : Option (String × List Value) :=
  match (Progress.naming []).run text.toList with
  | some (.ended name args) => some (name, args)
  | _ => none

open Progress

variable {frame frame' : Frame} {progress progress' : Progress} {held cs : List Char} {c : Char}

theorem run_nil (progress : Progress) : progress.run [] = some progress := rfl

theorem run_step (progress : Progress) (c : Char) :
    progress.run (c :: cs) = (progress.step c).bind fun after => after.run cs := by
  simp only [Progress.run, List.foldlM_cons]
  rfl

theorem run_cons (step : progress.step c = some progress') : progress.run (c :: cs) = progress'.run cs := by
  rw [run_step, step, Option.bind_some]

theorem run_append (before after : List Char) :
    progress.run (before ++ after) = (progress.run before).bind fun middle => middle.run after := by
  simp only [Progress.run, List.foldlM_append]
  rfl

/-- The escape of a character is read as that character. -/
private theorem run_escape_char (c : Char) :
    (Progress.text frame held).run (escapeChar c) = some (.text frame (c :: held)) := by
  unfold escapeChar
  by_cases quote : c = '\"'
  · subst quote; rfl
  by_cases backslash : c = '\\'
  · subst backslash; rfl
  by_cases feed : c = '\n'
  · subst feed; rfl
  by_cases ret : c = '\r'
  · subst ret; rfl
  by_cases tab : c = '\t'
  · subst tab; rfl
  simp [quote, backslash, feed, ret, tab, Progress.run, step]

theorem run_escaped (cs : List Char) :
    (Progress.text frame held).run (cs.flatMap escapeChar) = some (.text frame (cs.reverse ++ held)) := by
  induction cs generalizing held with
  | nil => rfl
  | cons c more ih =>
    rw [List.flatMap_cons, run_append, run_escape_char, Option.bind_some, ih]
    simp

/-- A reading at a place where an item may begin. -/
def AwaitsItem (frame : Frame) (progress : Progress) : Prop :=
  progress = .opened frame ∨ progress = .due frame

theorem awaits_step (awaits : AwaitsItem frame progress) (closing : isDelimiter c = false) (blank : c ≠ ' ') :
    progress.step c = begin frame c := by
  simp only [isDelimiter, Bool.or_eq_false_iff, beq_eq_false_iff_ne] at closing
  rcases awaits with rfl | rfl
  · simp [step, closing]
  · simp [step, blank]

/-- A reading that takes the next delimiter as one behind a whole item. -/
def Separable (frame : Frame) (progress : Progress) : Prop :=
  ∀ c, isDelimiter c = true → progress.step c = separate frame c

theorem run_string_literal (awaits : AwaitsItem frame progress) (s : String) :
    progress.run (stringLiteral s).toList = some (.filled (frame.add (.text s))) := by
  have opens : progress.step '\"' = some (.text frame []) := awaits_step awaits rfl (by decide)
  rw [stringLiteral, String.toList_ofList, run_cons opens, run_append, run_escaped, Option.bind_some,
    List.append_nil]
  simp [Progress.run, step]

/-- A character that may stand in a run. -/
def isBare (c : Char) : Bool :=
  !isDelimiter c && c != ' ' && c != '\"' && c != '{'

private theorem run_bare_more (alphabet : ∀ c ∈ cs, isBare c = true) :
    (Progress.bare frame held).run cs = some (.bare frame (cs.reverse ++ held)) := by
  induction cs generalizing held with
  | nil => rfl
  | cons c more ih =>
    have plain := alphabet c (by simp)
    simp only [isBare, Bool.and_eq_true, Bool.not_eq_true'] at plain
    have stays : (Progress.bare frame held).step c = some (.bare frame (c :: held)) := by
      simp [step, plain]
    rw [run_cons stays, ih fun other member => alphabet other (by simp [member])]
    simp

/-- A run of plain characters is held until a delimiter settles what it denotes. -/
theorem run_bare (awaits : AwaitsItem frame progress) (given : cs ≠ []) (alphabet : ∀ c ∈ cs, isBare c = true) :
    ∃ after, progress.run cs = some after ∧ Separable (frame.add (bareItem cs)) after := by
  cases cs with
  | nil => exact absurd rfl given
  | cons first more =>
    have plain := alphabet first (by simp)
    simp only [isBare, Bool.and_eq_true, Bool.not_eq_true', bne_iff_ne] at plain
    obtain ⟨⟨⟨closing, blank⟩, quote⟩, brace⟩ := plain
    have begun : progress.step first = some (.bare frame [first]) := by
      rw [awaits_step awaits closing blank]
      simp [begin, quote, brace, closing]
    -- Whichever delimiter comes settles the run; until then it could still grow.
    refine ⟨.bare frame (more.reverse ++ [first]), ?_, ?_⟩
    · exact (run_cons begun).trans (run_bare_more fun c member => alphabet c (by simp [member]))
    · intro c delimiter
      simp [step, delimiter]

private theorem numeral_char_bare (numeral : isNumeralChar c = true) : isBare c = true := by
  have apart (other : Char) (foreign : isNumeralChar other = false) : c ≠ other := by
    rintro rfl
    rw [foreign] at numeral
    cases numeral
  simp [isBare, isDelimiter, apart ',' rfl, apart '}' rfl, apart ')' rfl, apart ' ' rfl, apart '\"' rfl,
    apart '{' rfl]

/-- The text of a number is one run, and no run of a truth value. -/
private theorem numeral_text_bare {s : String} (numeral : NumberText s) :
    s.toList ≠ [] ∧ (∀ c ∈ s.toList, isBare c = true) ∧ bareItem s.toList = .number s := by
  obtain ⟨first, more, spelled, starts, alphabet⟩ := numeral
  have numeralFirst : isNumeralChar first = true := by
    simp only [startsNumber, isNumeralChar, isMantissa, Bool.or_eq_true] at starts ⊢
    rcases starts with (digit | sign) | point
    · exact .inl (.inl (.inl (.inl digit)))
    · exact .inl (.inl (.inr sign))
    · exact .inl (.inl (.inl (.inr point)))
  refine ⟨by simp [spelled], ?_, ?_⟩
  · intro c member
    rw [spelled] at member
    rcases List.mem_cons.mp member with rfl | later
    · exact numeral_char_bare numeralFirst
    · exact numeral_char_bare (alphabet c later)
  · have noTrue : s.toList ≠ ['t', 'r', 'u', 'e'] := by
      intro same
      cases spelled.symm.trans same
      cases starts
    have noFalse : s.toList ≠ ['f', 'a', 'l', 's', 'e'] := by
      intro same
      cases spelled.symm.trans same
      cases starts
    simp [bareItem, noTrue, noFalse]

private theorem bool_text_bare (b : Bool) :
    (boolText b).toList ≠ [] ∧ (∀ c ∈ (boolText b).toList, isBare c = true) ∧
      bareItem (boolText b).toList = .flag b := by
  cases b with
  | true => simp [boolText, isBare, isDelimiter, bareItem]
  | false => simp [boolText, isBare, isDelimiter, bareItem]

/-- A member whose number, if it is one, is written as numbers are. -/
def ReadableLiteral : Literal → Prop
  | .number s => NumberText s
  | _ => True

/-- A value all of whose numbers are written as numbers are. -/
def Readable : Value → Prop
  | .number s => NumberText s
  | .list items => ∀ item ∈ items, ReadableLiteral item
  | _ => True

private theorem filled_separable (frame : Frame) : Separable frame (.filled frame) :=
  fun _ _ => rfl

theorem run_literal (awaits : AwaitsItem frame progress) (item : Literal) (readable : ReadableLiteral item) :
    ∃ after, progress.run item.render.toList = some after ∧ Separable (frame.add item) after := by
  cases item with
  | text s => exact ⟨_, run_string_literal awaits s, filled_separable _⟩
  | number s =>
    obtain ⟨given, alphabet, denoted⟩ := numeral_text_bare readable
    have ran := run_bare awaits given alphabet
    rwa [denoted] at ran
  | flag b =>
    obtain ⟨given, alphabet, denoted⟩ := bool_text_bare b
    have ran := run_bare awaits given alphabet
    rwa [denoted] at ran

/-- Between items a comma and a blank lead to the place of the next item. -/
theorem run_comma (settled : Separable frame progress) : progress.run [',', ' '] = some (.due frame) := by
  have comma : progress.step ',' = some (.due frame) := by
    rw [settled ',' rfl, separate]
    cases frame.members <;> rfl
  rw [run_cons comma]
  rfl

section Joined

variable {α : Type} {render : α → String} {add : Frame → α → Frame} {P : α → Prop} {K : Frame → Prop}

/-- Items with separators between them are read one after the other. Members of a list and arguments
of a call differ only in how the frame takes them. -/
theorem run_joined
    (item : ∀ {frame progress a}, AwaitsItem frame progress → K frame → P a →
      ∃ after, progress.run (render a).toList = some after ∧ Separable (add frame a) after)
    (kept : ∀ {frame a}, K frame → K (add frame a))
    {items : List α} (given : items ≠ []) (fit : ∀ a ∈ items, P a)
    (awaits : AwaitsItem frame progress) (kind : K frame) :
    ∃ after, progress.run (String.intercalate ", " (items.map render)).toList = some after ∧
      Separable (items.foldl add frame) after := by
  induction items generalizing frame progress with
  | nil => exact absurd rfl given
  | cons a more ih =>
    obtain ⟨middle, ran, settled⟩ := item awaits kind (fit a (by simp))
    cases more with
    | nil => exact ⟨middle, by simpa using ran, settled⟩
    | cons b rest =>
      obtain ⟨after, later, finish⟩ := ih (List.cons_ne_nil _ _) (fun x member => fit x (by simp [member]))
        (Or.inr rfl) (kept kind)
      refine ⟨after, ?_, finish⟩
      rw [List.map_cons, List.map_cons, String.intercalate_cons_cons, String.toList_append, String.toList_append,
        run_append, run_append, ran, Option.bind_some]
      exact (congrArg (Option.bind · _) (run_comma settled)).trans later

/-- Items between an opening and a closing sign, of which there may be none. -/
theorem run_between
    (item : ∀ {frame progress a}, AwaitsItem frame progress → K frame → P a →
      ∃ after, progress.run (render a).toList = some after ∧ Separable (add frame a) after)
    (kept : ∀ {frame a}, K frame → K (add frame a))
    {items : List α} (fit : ∀ a ∈ items, P a) (frame : Frame) (kind : K frame)
    (closing : c = ')' ∨ c = '}') (rest : List Char) :
    (Progress.opened frame).run ((String.intercalate ", " (items.map render)).toList ++ c :: rest) =
      (separate (items.foldl add frame) c).bind fun after => after.run rest := by
  cases items with
  | nil =>
    have closes : (Progress.opened frame).step c = separate frame c := by
      simp [step, closing]
    exact (run_step _ _).trans (congrArg (Option.bind · _) closes)
  | cons a more =>
    obtain ⟨middle, ran, settled⟩ := run_joined item kept (List.cons_ne_nil a more) fit (Or.inl rfl) kind
    have delimiter : isDelimiter c = true := by
      rcases closing with rfl | rfl <;> rfl
    rw [run_append, ran, Option.bind_some, run_step, settled c delimiter]

end Joined

private theorem add_members (items : List Literal) {members : List Literal} (inside : frame.members = some members) :
    items.foldl Frame.add frame = { frame with members := some (items.reverse ++ members) } := by
  induction items generalizing frame members with
  | nil => simp [← inside]
  | cons item more ih =>
    have added : frame.add item = { frame with members := some (item :: members) } := by
      simp [Frame.add, inside]
    rw [List.foldl_cons, added, ih rfl]
    simp

private theorem push_args (values : List Value) :
    values.foldl Frame.push frame = { frame with args := values.reverse ++ frame.args } := by
  induction values generalizing frame with
  | nil => rfl
  | cons value more ih =>
    rw [List.foldl_cons, ih]
    simp [Frame.push]

/-- A list in braces is read as one argument with all its members. -/
theorem run_list (awaits : AwaitsItem frame progress) (outside : frame.members = none) {items : List Literal}
    (readable : ∀ item ∈ items, ReadableLiteral item) :
    progress.run (Value.list items).render.toList = some (.filled (frame.push (.list items))) := by
  have opens : progress.step '{' = some (.opened frame.openList) := by
    rw [awaits_step awaits rfl (by decide)]
    simp [begin, outside]
  have body := run_between (K := fun _ => True) (fun awaits _ readable => run_literal awaits _ readable)
    (fun kind => kind) readable frame.openList trivial (.inr rfl) []
  rw [add_members items rfl] at body
  have split : (Value.list items).render.toList =
      '{' :: ((String.intercalate ", " (items.map Literal.render)).toList ++ ['}']) := by
    simp [Value.render]
  rw [split, run_cons opens, body]
  simp [separate, Frame.openList, Frame.push, outside, run_nil]

theorem run_value {value : Value} (awaits : AwaitsItem frame progress) (outside : frame.members = none)
    (readable : Readable value) :
    ∃ after, progress.run value.render.toList = some after ∧ Separable (frame.push value) after := by
  have single (item : Literal) : frame.add item = frame.push (ofLiteral item) := by
    simp [Frame.add, outside]
  cases value with
  | text s => exact single (.text s) ▸ run_literal awaits (.text s) trivial
  | number s => exact single (.number s) ▸ run_literal awaits (.number s) readable
  | flag b => exact single (.flag b) ▸ run_literal awaits (.flag b) trivial
  | list items => exact ⟨_, run_list awaits outside readable, filled_separable _⟩

/-- The characters of a name are held until the parenthesis after them. -/
theorem run_name (alphabet : ∀ c ∈ cs, isNameChar c = true) :
    (Progress.naming held).run cs = some (.naming (cs.reverse ++ held)) := by
  induction cs generalizing held with
  | nil => rfl
  | cons c more ih =>
    have inside := alphabet c (by simp)
    have noParen : c ≠ '(' := by
      rintro rfl
      cases inside
    have stays : (Progress.naming held).step c = some (.naming (c :: held)) := by
      simp [step, noParen, inside]
    rw [run_cons stays, ih fun other member => alphabet other (by simp [member])]
    simp

/-- A text that is a name of the generated language. -/
def isName (name : String) : Bool :=
  begins startsName name.toList && name.toList.all isNameChar

/-- The statement of an operation is read back as its name and all its values. -/
theorem read_statement_render (op : Operation) (named : isName op.name = true)
    (readable : ∀ value ∈ op.args, Readable value) : readStatement op.render = some (op.name, op.args) := by
  simp only [isName, Bool.and_eq_true, List.all_eq_true] at named
  have split : op.render.toList =
      op.name.toList ++ '(' :: ((String.intercalate ", " (op.args.map Value.render)).toList ++ [')', ';']) := by
    simp [Operation.render]
  have opens : (Progress.naming op.name.toList.reverse).step '(' = some (.opened ⟨op.name, [], none⟩) := by
    simp [step, named.1]
  have body := run_between (fun awaits outside readable => run_value awaits outside readable)
    (fun {frame value} (outside : frame.members = none) => outside) readable
    ⟨op.name, [], none⟩ rfl (.inl rfl) [';']
  have ran : (Progress.naming []).run op.render.toList = some (.ended op.name op.args) := by
    rw [split, run_append, run_name named.2, Option.bind_some, List.append_nil, run_cons opens, body, push_args]
    simp [separate, Progress.run, step]
  rw [readStatement, ran]

end Tabscript.StatementReader
