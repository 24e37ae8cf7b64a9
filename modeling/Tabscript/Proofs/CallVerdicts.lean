import Mathlib.Data.List.Nodup
import Tabscript.Proofs.ArgumentSlots
import Tabscript.Proofs.NumeralReadings

/-! The verdict on a call, for every name and all arguments.

What suits a slot, and what is said of an argument that does not, is stated by kind of
argument and without the readers. The number of arguments is held against the parameters
before any of them is read, so the readers never run out of arguments, and the first one
that does not suit its slot is the one reported. -/
namespace Tabscript.CallVerdicts
open Token TokenStream Slot ArgumentSlots NumeralReadings

/-- An argument that is a number, and the text of that number. A quoted text is one if it
consists of a single number token between blanks. -/
inductive NumberArgument : Expr → String → Prop where
  | bare (s : String) : NumberArgument (.number s) s
  | quoted (s : String)
    (token : items (Text.trimmed s).toList = [.ok (.number (Text.trimmed s)), .ok .eof]) :
    NumberArgument (.str s) (Text.trimmed s)

/-- The text of a number that is an integer of 32 bits with a sign. -/
def IntegerText (s : String) : Prop :=
  '.' ∉ s.toList ∧ 'e' ∉ s.toList ∧ 'E' ∉ s.toList ∧
    ∃ k, SpelledInteger s.toList k ∧ -2147483648 ≤ k ∧ k ≤ 2147483647

/-- Whether an argument may stand at a slot. -/
def Suits : Slot → Expr → Prop
  | .text, e => ∀ name args, e ≠ .call name args
  | .number, e => ∃ n, NumberArgument e n
  | .integer, e => ∃ n, NumberArgument e n ∧ IntegerText n
  | .flag _, e => ∃ b s, SpellsFlag b s ∧ (e = .ident s ∨ e = .str s)
  | .values, e => (∃ s, e = .str s) ∨ (∃ s, e = .number s) ∨ ∃ b s, SpellsFlag b s ∧ e = .ident s

/-- What is said of an argument that may not stand at a slot. -/
inductive Complaint : Slot → Expr → String → Prop where
  | notText (name : String) (args : List Expr) :
    Complaint .text (.call name args) "expected a string, found nested call"
  | notNumber {e : Expr} (none : ∀ n, ¬ NumberArgument e n) :
    Complaint .number e ("expected a number, found " ++ e.shown)
  | notEvenNumber {e : Expr} (none : ∀ n, ¬ NumberArgument e n) :
    Complaint .integer e ("expected a number, found " ++ e.shown)
  | notInteger {e : Expr} {n : String} (numeral : NumberArgument e n) (other : ¬ IntegerText n) :
    Complaint .integer e ("expected an integer, found " ++ n)
  | otherWord (default : Bool) {s : String} (none : ∀ b, ¬ SpellsFlag b s) :
    Complaint (.flag default) (.ident s) ("expected true or false, found " ++ Text.quoted s)
  | notFlag (default : Bool) {e : Expr} (unnamed : ∀ s, e ≠ .ident s) (none : ∀ b s, e = .str s → ¬ SpellsFlag b s) :
    Complaint (.flag default) e ("expected true or false, found " ++ e.shown)
  | otherName {s : String} (none : ∀ b, ¬ SpellsFlag b s) :
    Complaint .values (.ident s) ("expected a value, found identifier " ++ s)
  | notValue (name : String) (args : List Expr) :
    Complaint .values (.call name args) ("expected a value, found " ++ Expr.shown (.call name args))

/-- The parameter that an argument belongs to. The last one takes all that are left. -/
def paramAt (params : List Param) (index : Nat) : Option Param :=
  params[min index (params.length - 1)]?

/-- The argument at a place, if there is one, may stand at its parameter. -/
def SuitedAt (params : List Param) (args : List Expr) (index : Nat) : Prop :=
  ∀ e, args[index]? = some e → ∃ p, paramAt params index = some p ∧ Suits p.slot e

/-- The first argument that may not stand at its parameter. -/
structure FirstMisfit (params : List Param) (args : List Expr) (index : Nat) (e : Expr) (p : Param) : Prop where
  here : args[index]? = some e
  faces : paramAt params index = some p
  unsuited : ¬ Suits p.slot e
  earlier : ∀ i < index, SuitedAt params args i

variable {e : Expr} {s n : String} {slot : Slot} {place : Nat} {params : List Param} {args : List Expr}

section Texts

theorem flag_spelled_iff {b : Bool} : bool? s = some b ↔ SpellsFlag b s := by
  constructor
  · exact bool_spelled
  · intro spelled
    have word : s.toList.map Char.toLower = (boolText b).toList := spelled
    cases b <;> (rw [bool?, word]; rfl)

private theorem flag_unspelled (none : bool? s = none) (b : Bool) : ¬ SpellsFlag b s := by
  intro spelled
  rw [flag_spelled_iff.mpr spelled] at none
  cases none

theorem number_in_iff : numberIn? s = some n ↔
    n = Text.trimmed s ∧ items (Text.trimmed s).toList = [.ok (.number n), .ok .eof] := by
  unfold numberIn?
  dsimp only
  constructor
  · intro read
    split at read
    · rename_i text more found
      split at read
      · rename_i whole
        cases read
        have last := items_after_end [.ok (.number n)] found
        rw [found, last]
        exact ⟨whole, rfl⟩
      · cases read
    · cases read
  · rintro ⟨rfl, token⟩
    rw [token]
    exact if_pos rfl

theorem is_integer_iff : isInteger s = true ↔ IntegerText s := by
  have read : (Text.integer? s.toList).any Text.fitsInt32 = true ↔
      ∃ k, SpelledInteger s.toList k ∧ -2147483648 ≤ k ∧ k ≤ 2147483647 := by
    rw [Option.any_eq_true]
    simp only [integer_spelled, Text.fitsInt32, Bool.and_eq_true, decide_eq_true_eq]
  unfold isInteger
  dsimp only
  rw [Bool.and_eq_true, read, Bool.not_eq_true', List.any_eq_false, IntegerText]
  constructor
  · rintro ⟨plain, spelled⟩
    exact ⟨fun point => plain _ point rfl, fun mark => plain _ mark rfl, fun mark => plain _ mark rfl, spelled⟩
  · rintro ⟨point, small, capital, spelled⟩
    refine ⟨fun c member => ?_, spelled⟩
    simp only [Bool.or_eq_true, beq_iff_eq, not_or]
    refine ⟨⟨?_, ?_⟩, ?_⟩
    · rintro rfl; exact point member
    · rintro rfl; exact small member
    · rintro rfl; exact capital member

end Texts

section Readers

/-- What one reader gives agrees with what suits its slot and with what is said otherwise. -/
def Judged {α : Type} (slot : Slot) (e : Expr) : Except Misfit α → Prop
  | .ok _ => Suits slot e
  | .error misfit => Complaint slot e misfit.message

private theorem read_text_judged (e : Expr) : Judged .text e (readText e) := by
  cases e with
  | str | number | ident => exact nofun
  | call name args => exact .notText name args

theorem read_number_iff : readNumber e = .ok n ↔ NumberArgument e n := by
  constructor
  · intro read
    cases e with
    | number s =>
      cases read
      exact .bare n
    | str s =>
      simp only [readNumber] at read
      split at read
      · rename_i found
        cases read
        obtain ⟨rfl, token⟩ := number_in_iff.mp found
        exact .quoted s token
      · cases read
    | ident | call => cases read
  · rintro (_ | ⟨s, token⟩)
    · rfl
    · simp only [readNumber, number_in_iff.mpr ⟨rfl, token⟩]

private theorem read_number_error {misfit : Misfit} (read : readNumber e = .error misfit) :
    misfit = .notNumber e ∧ ∀ n, ¬ NumberArgument e n := by
  refine ⟨?_, fun n numeral => ?_⟩
  · cases e with
    | number => cases read
    | str s =>
      simp only [readNumber] at read
      split at read
      · cases read
      · cases read
        rfl
    | ident | call =>
      cases read
      rfl
  · rw [read_number_iff.mpr numeral] at read
    cases read

private theorem read_number_judged (e : Expr) : Judged .number e (readNumber e) := by
  cases read : readNumber e with
  | ok n => exact ⟨n, read_number_iff.mp read⟩
  | error misfit =>
    obtain ⟨rfl, none⟩ := read_number_error read
    exact .notNumber none

private theorem read_integer_judged (e : Expr) : Judged .integer e (readInteger e) := by
  unfold readInteger
  cases read : readNumber e with
  | error misfit =>
    obtain ⟨rfl, none⟩ := read_number_error read
    exact .notEvenNumber none
  | ok n =>
    have numeral := read_number_iff.mp read
    dsimp only
    split
    · rename_i whole
      exact ⟨n, numeral, is_integer_iff.mp whole⟩
    · rename_i other
      exact .notInteger numeral fun whole => other (is_integer_iff.mpr whole)

private theorem read_flag_judged (default : Bool) (e : Expr) : Judged (.flag default) e (readFlag e) := by
  cases e with
  | ident s =>
    rw [readFlag]
    split
    · rename_i b found
      exact ⟨b, s, bool_spelled found, .inl rfl⟩
    · rename_i none
      exact .otherWord default (flag_unspelled none)
  | str s =>
    rw [readFlag]
    split
    · rename_i b found
      exact ⟨b, s, bool_spelled found, .inr rfl⟩
    · rename_i none
      refine .notFlag default nofun ?_
      rintro b _ ⟨⟩
      exact flag_unspelled none b
  | number | call => exact .notFlag default nofun nofun

private theorem read_literal_judged (e : Expr) : Judged .values e (readLiteral e) := by
  cases e with
  | str s => exact .inl ⟨s, rfl⟩
  | number s => exact .inr (.inl ⟨s, rfl⟩)
  | ident s =>
    rw [readLiteral]
    split
    · rename_i b found
      exact .inr (.inr ⟨b, s, bool_spelled found, rfl⟩)
    · rename_i none
      exact .otherName (flag_unspelled none)
  | call name args => exact .notValue name args

end Readers

section Complaints

private theorem numeral_unique {m : String} (first : NumberArgument e n) (second : NumberArgument e m) : n = m := by
  cases first <;> cases second <;> rfl

/-- Nothing is said of an argument that suits its slot. -/
private theorem complaint_unsuited {reason : String} (said : Complaint slot e reason) : ¬ Suits slot e := by
  cases said with
  | notText name args => exact fun suits => suits name args rfl
  | notNumber none => exact fun ⟨n, numeral⟩ => none n numeral
  | notEvenNumber none => exact fun ⟨n, numeral, _⟩ => none n numeral
  | notInteger numeral other =>
    rintro ⟨n, again, whole⟩
    rw [numeral_unique again numeral] at whole
    exact other whole
  | otherWord default none =>
    rintro ⟨b, s, spelled, same | same⟩
    · cases same
      exact none b spelled
    · cases same
  | notFlag default unnamed none =>
    rintro ⟨b, s, spelled, named | quoted⟩
    · exact unnamed s named
    · exact none b s quoted spelled
  | otherName none =>
    rintro (⟨s, same⟩ | ⟨s, same⟩ | ⟨b, s, spelled, same⟩)
    · cases same
    · cases same
    · cases same
      exact none b spelled
  | notValue name args =>
    rintro (⟨s, same⟩ | ⟨s, same⟩ | ⟨b, s, spelled, same⟩) <;> cases same

theorem wording_ne {opening rest other : String} (differ : ¬ opening.toList <+: other.toList) :
    opening ++ rest ≠ other := by
  rintro rfl
  exact differ (by rw [String.toList_append]; exact List.prefix_append _ _)

/-- No complaint has the wording of an argument that is not there. -/
theorem complaint_wording {reason : String} (said : Complaint slot e reason) :
    reason ≠ "missing argument" ∧ reason ≠ "expected at least one value" := by
  cases said with
  | notText => decide
  | _ => exact ⟨wording_ne (by decide), wording_ne (by decide)⟩

end Complaints

section Lists

variable {e : Expr} {p : Param} {more : List Expr} {others : List Param}

/-- A reading that starts at a place agrees with the first misfit, which it counts from there. -/
def Settled {α : Type} (params : List Param) (args : List Expr) (place : Nat) : Except (Nat × Misfit) α → Prop
  | .ok _ => ∀ index, SuitedAt params args index
  | .error (spot, misfit) => ∃ index e p, spot = place + index ∧ FirstMisfit params args index e p ∧
      Complaint p.slot e misfit.message

private theorem settled_empty {α : Type} (params : List Param) (result : α) : Settled params [] place (.ok result) := by
  rintro index e ⟨⟩

private theorem settled_here {α : Type} {misfit : Misfit} (faces : paramAt params 0 = some p)
    (said : Complaint p.slot e misfit.message) :
    Settled params (e :: more) place (.error (place, misfit) : Except (Nat × Misfit) α) :=
  ⟨0, e, p, rfl, ⟨rfl, faces, complaint_unsuited said, nofun⟩, said⟩

/-- Where the first argument suits its parameter, the others decide. -/
private theorem settled_later {α β : Type} {result : Except (Nat × Misfit) α} {f : α → β}
    (faces : paramAt params 0 = some p)
    (suits : Suits p.slot e) (shift : ∀ i < more.length, paramAt params (i + 1) = paramAt others i)
    (later : Settled others more (place + 1) result) : Settled params (e :: more) place (result.map f) := by
  have inside {i : Nat} {d : Expr} (here : more[i]? = some d) : i < more.length :=
    (List.getElem?_eq_some_iff.mp here).1
  have first : SuitedAt params (e :: more) 0 := by
    rintro d ⟨⟩
    exact ⟨p, faces, suits⟩
  have next {i : Nat} (suited : SuitedAt others more i) : SuitedAt params (e :: more) (i + 1) := by
    intro d here
    rw [List.getElem?_cons_succ] at here
    rw [shift i (inside here)]
    exact suited d here
  cases result with
  | ok values =>
    rintro (_ | i)
    · exact first
    · exact next (later i)
  | error found =>
    obtain ⟨index, d, q, spot, misfit, said⟩ := later
    refine ⟨index + 1, d, q, by omega, ⟨misfit.here, ?_, misfit.unsuited, ?_⟩, said⟩
    · rw [shift index (inside misfit.here)]
      exact misfit.faces
    · rintro (_ | i) before
      · exact first
      · exact next (misfit.earlier i (by omega))

@[simp] theorem param_first : paramAt (p :: params) 0 = some p := by
  simp [paramAt]

@[simp] theorem param_single (index : Nat) : paramAt [p] index = some p := by
  simp [paramAt]

theorem read_literals_settled (slot : p.slot = .values) (place : Nat) (args : List Expr) :
    Settled [p] args place (readLiterals place args) := by
  induction args generalizing place with
  | nil => exact settled_empty [p] []
  | cons e more ih =>
    have judged := read_literal_judged e
    rw [← slot] at judged
    rw [readLiterals]
    split
    · rename_i misfit found
      rw [found] at judged
      exact settled_here param_first judged
    · rename_i item found
      rw [found] at judged
      exact settled_later param_first judged (fun i _ => by rw [param_single, param_single]) (ih (place + 1))

/-- A slot for one argument takes it if it suits, and complains at its place otherwise. -/
private theorem slot_read_judged (single : slot ≠ .values) (place : Nat) (e : Expr) (more : List Expr) :
    (∃ v, slot.read place (e :: more) = .ok (v, more) ∧ Suits slot e) ∨
      ∃ misfit, slot.read place (e :: more) = .error (place, misfit) ∧ Complaint slot e misfit.message := by
  have one {α : Type} {read : Expr → Except Misfit α} (wrap : α → Value) (judged : Judged slot e (read e)) :
      (∃ v, readOne read wrap place (e :: more) = .ok (v, more) ∧ Suits slot e) ∨
        ∃ misfit, readOne read wrap place (e :: more) = .error (place, misfit) ∧
          Complaint slot e misfit.message := by
    rw [readOne]
    cases found : read e with
    | ok a =>
      rw [found] at judged
      exact .inl ⟨wrap a, rfl, judged⟩
    | error misfit =>
      rw [found] at judged
      exact .inr ⟨misfit, rfl, judged⟩
  cases slot with
  | text => exact one .text (read_text_judged e)
  | number => exact one .number (read_number_judged e)
  | integer => exact one .number (read_integer_judged e)
  | flag default => exact one .flag (read_flag_judged default e)
  | values => exact absurd rfl single

private theorem read_params_settled_cons (single : p.slot ≠ .values)
    (shift : ∀ i < more.length, paramAt (p :: others) (i + 1) = paramAt others i)
    (later : Settled others more (place + 1) (Entry.readParams (place + 1) others more)) :
    Settled (p :: others) (e :: more) place (Entry.readParams place (p :: others) (e :: more)) := by
  rw [Entry.readParams]
  rcases slot_read_judged single place e more with ⟨v, read, suits⟩ | ⟨misfit, read, said⟩
  · rw [read]
    exact settled_later param_first suits shift later
  · rw [read]
    exact settled_here param_first said

end Lists

section Counts

variable {entry : Entry} {name : String} {p : Param} {others : List Param} {count : Nat}

/-- A number of arguments is admitted if it covers the required parameters and can be used up. -/
theorem accepts_iff : entry.arity.accepts count = true ↔
    entry.params.length ≤ count + entry.params.countP Entry.isOptional ∧ Fits entry.params count := by
  have bound : entry.params.countP Entry.isOptional ≤ entry.params.length := List.countP_le_length
  unfold Entry.arity Fits
  dsimp only
  split
  · rename_i variadic
    simp only [Arity.accepts, decide_eq_true_eq, variadic, true_or, and_true]
    omega
  · rename_i fixed
    rw [or_iff_right fixed]
    split
    · simp only [Arity.accepts, beq_iff_eq]
      omega
    · simp only [Arity.accepts, Bool.and_eq_true, decide_eq_true_eq]
      omega

/-- A parameter that takes exactly one argument. -/
def TakesOne (p : Param) : Prop :=
  Entry.isOptional p = false ∧ Entry.isVariadic p = false

theorem fits_cons (one : TakesOne p) : Fits (p :: others) (count + 1) ↔ Fits others count := by
  simp [Fits, one.2]

theorem accepts_cons (one : TakesOne p) :
    (Entry.arity ⟨name, p :: others⟩).accepts (count + 1) = true ↔
      (Entry.arity ⟨name, others⟩).accepts count = true := by
  rw [accepts_iff, accepts_iff, fits_cons one, List.countP_cons_of_neg (by simp [one.1]), List.length_cons]
  refine and_congr_left fun _ => ?_
  dsimp only
  omega

theorem accepts_cons_zero (one : TakesOne p) : (Entry.arity ⟨name, p :: others⟩).accepts 0 ≠ true := by
  have bound : others.countP Entry.isOptional ≤ others.length := List.countP_le_length
  rw [ne_eq, accepts_iff, List.countP_cons_of_neg (by simp [one.1]), List.length_cons]
  omega

end Counts

section Parameters

variable {name : String} {p : Param} {others : List Param}

/-- Parameters of which only the last may be optional or variadic. -/
def LastVaries (params : List Param) : Prop :=
  ∀ p ∈ params.dropLast, TakesOne p

theorem catalog_last_varies : ∀ entry ∈ catalog, LastVaries entry.params := by
  have checked : ∀ entry ∈ catalog, entry.params.dropLast.all
      (fun p => !Entry.isOptional p && !Entry.isVariadic p) = true := by
    decide +kernel
  intro entry listed p member
  have one := List.all_eq_true.mp (checked entry listed) p member
  simpa [TakesOne] using one

/-- Behind a parameter that may vary there is none. -/
theorem varying_last (varies : LastVaries (p :: others)) (varying : ¬ TakesOne p) : others = [] := by
  by_contra some
  obtain ⟨q, behind, rfl⟩ := List.exists_cons_of_ne_nil some
  exact varying (varies p (by simp))

theorem last_varies_tail (varies : LastVaries (p :: others)) : LastVaries others := by
  intro q member
  cases others with
  | nil => cases member
  | cons first behind => exact varies q (List.mem_cons_of_mem _ member)

private theorem param_next {i : Nat} (some : others ≠ []) : paramAt (p :: others) (i + 1) = paramAt others i := by
  obtain ⟨q, rest, rfl⟩ := List.exists_cons_of_ne_nil some
  simp only [paramAt, List.length_cons, Nat.add_sub_cancel, Nat.add_min_add_right, List.getElem?_cons_succ]

theorem read_one_taken (one : TakesOne p) : p.slot ≠ .values := by
  intro slot
  have single := one.2
  rw [Entry.isVariadic, slot] at single
  cases single

/-- Readings of an admitted number of arguments are settled by the first misfit. Arguments
never run out, because the count was held against the parameters. -/
theorem read_params_settled (varies : LastVaries params)
    (admitted : (Entry.arity ⟨name, params⟩).accepts args.length = true) (place : Nat) :
    Settled params args place (Entry.readParams place params args) := by
  induction params generalizing args place with
  | nil =>
    have few : args.length ≤ 0 := by simpa [Fits] using (accepts_iff.mp admitted).2
    cases List.length_eq_zero_iff.mp (Nat.le_zero.mp few)
    exact settled_empty [] []
  | cons p others ih =>
    by_cases one : TakesOne p
    · cases args with
      | nil => exact absurd admitted (accepts_cons_zero one)
      | cons e more =>
        have rest := (accepts_cons one).mp admitted
        refine read_params_settled_cons (read_one_taken one) (fun i inside => ?_)
          (ih (last_varies_tail varies) rest (place + 1))
        refine param_next ?_
        rintro rfl
        have few : more.length ≤ 0 := by simpa [Fits] using (accepts_iff.mp rest).2
        omega
    · have last := varying_last varies one
      subst last
      obtain ⟨enough, fits⟩ := accepts_iff.mp admitted
      rw [TakesOne, Entry.isOptional, Entry.isVariadic] at one
      cases kind : p.slot with
      | text | number | integer =>
        rw [kind] at one
        exact absurd ⟨rfl, rfl⟩ one
      | flag default =>
        have few : args.length ≤ 1 := by simpa [Fits, Entry.isVariadic, kind] using fits
        cases args with
        | nil =>
          rw [Entry.readParams, kind]
          exact settled_empty _ _
        | cons e more =>
          cases List.length_eq_zero_iff.mp (Nat.le_zero.mp (Nat.le_of_succ_le_succ few))
          exact read_params_settled_cons (by simp [kind]) (fun i inside => absurd inside (Nat.not_lt_zero i))
            (settled_empty [] [])
      | values =>
        cases args with
        | nil => simp [Entry.isOptional, kind] at enough
        | cons e more =>
          have settled := read_literals_settled kind place (e :: more)
          rw [Entry.readParams, kind, Slot.read]
          cases read : readLiterals place (e :: more) with
          | ok items =>
            rw [read] at settled
            exact settled
          | error found =>
            rw [read] at settled
            exact settled

end Parameters

section Calls

variable {entry : Entry} {p : Param} {index : Nat} {call : Call}

theorem catalog_names_distinct : (catalog.map Entry.name).Nodup := by
  decide +kernel

private theorem lookup_listed (listed : entry ∈ catalog) : lookup entry.name = some entry := by
  cases found : lookup entry.name with
  | none =>
    have other := List.find?_eq_none.mp found entry listed
    simp at other
  | some first =>
    obtain ⟨inside, same⟩ := lookup_some found
    rw [List.inj_on_of_nodup_map catalog_names_distinct inside listed same]

theorem lookup_absent {name : String} (absent : ∀ entry ∈ catalog, entry.name ≠ name) : lookup name = none :=
  List.find?_eq_none.mpr fun entry listed => by simpa using absent entry listed

private theorem param_name_at (faces : paramAt entry.params index = some p) : entry.paramName index = p.name := by
  unfold paramAt at faces
  unfold Entry.paramName
  by_cases inside : index < entry.params.length
  · rw [Nat.min_eq_left (by omega)] at faces
    rw [faces]
  · rw [Nat.min_eq_right (by omega)] at faces
    rw [List.getElem?_eq_none (by omega), List.getLast?_eq_getElem?, faces]

private theorem first_misfit_unsuited {e : Expr} (misfit : FirstMisfit params args index e p) :
    ¬ SuitedAt params args index := by
  intro suited
  obtain ⟨q, faces, suits⟩ := suited e misfit.here
  cases misfit.faces.symm.trans faces
  exact misfit.unsuited suits

/-- Two first misfits are the same one. -/
theorem first_misfit_unique {i j : Nat} {d e : Expr} {p q : Param} (first : FirstMisfit params args i d p)
    (second : FirstMisfit params args j e q) : i = j ∧ d = e ∧ p = q := by
  have same : i = j := by
    rcases Nat.lt_trichotomy i j with before | same | behind
    · exact absurd (second.earlier i before) (first_misfit_unsuited first)
    · exact same
    · exact absurd (first.earlier j behind) (first_misfit_unsuited second)
  subst same
  cases first.here.symm.trans second.here
  cases first.faces.symm.trans second.faces
  exact ⟨rfl, rfl, rfl⟩

theorem validate_absent (absent : ∀ entry ∈ catalog, entry.name ≠ call.name) :
    call.validate = .error (.unknownFunction call.line call.source call.name) := by
  simp only [Call.validate, lookup_absent absent]

theorem validate_refused (listed : entry ∈ catalog) (named : entry.name = call.name)
    (refused : entry.arity.accepts call.args.length = false) :
    call.validate = .error (.wrongArity call.line call.source call.name entry.arity call.args.length) := by
  have found := lookup_listed listed
  rw [named] at found
  simp [Call.validate, found, refused, named]

/-- What the check says of a call to an entry of the catalog with an admitted number of arguments. -/
theorem validate_settled (listed : entry ∈ catalog) (named : entry.name = call.name)
    (admitted : entry.arity.accepts call.args.length = true) :
    (∃ index e p reason, FirstMisfit entry.params call.args index e p ∧ Complaint p.slot e reason ∧
      call.validate =
        .error (.invalidArgument call.line call.source call.name (index + 1) p.name reason)) ∨
    ((∀ index, SuitedAt entry.params call.args index) ∧
      ∃ values, call.validate = .ok ⟨call.name, values⟩ ∧ Supplies entry.params call.args values) := by
  have found := lookup_listed listed
  have settled := read_params_settled (catalog_last_varies entry listed) admitted 0
  rw [named] at found
  cases read : Entry.readParams 0 entry.params call.args with
  | ok values =>
    rw [read] at settled
    refine .inr ⟨settled, values, ?_, read_params_supplies read (arity_fits admitted)⟩
    simp only [Call.validate, found, admitted, if_true, read, named]
  | error misfit =>
    rw [read] at settled
    obtain ⟨index, e, p, spot, first, said⟩ := settled
    refine .inl ⟨index, e, p, _, first, said, ?_⟩
    rw [Nat.zero_add] at spot
    simp only [Call.validate, found, admitted, if_true, read, named, spot, param_name_at first.faces]

/-- A fault of an argument is the fault of one that is there. -/
private theorem invalid_argument_given {line position : Nat} {source name param reason : String}
    (verdict : call.validate = .error (.invalidArgument line source name position param reason)) :
    1 ≤ position ∧ position ≤ call.args.length ∧ reason ≠ "missing argument" ∧
      reason ≠ "expected at least one value" := by
  by_cases known : ∃ entry ∈ catalog, entry.name = call.name
  · obtain ⟨entry, listed, named⟩ := known
    cases count : entry.arity.accepts call.args.length with
    | false =>
      rw [validate_refused listed named count] at verdict
      cases verdict
    | true =>
      rcases validate_settled listed named count with ⟨index, e, p, said, first, complaint, same⟩ | ⟨_, values, same, _⟩
      · rw [same] at verdict
        cases verdict
        have inside := (List.getElem?_eq_some_iff.mp first.here).1
        exact ⟨Nat.le_add_left 1 index, inside, complaint_wording complaint⟩
      · rw [same] at verdict
        cases verdict
  · rw [validate_absent fun entry listed named => known ⟨entry, listed, named⟩] at verdict
    cases verdict

/-- The whole check of a call. Its name is looked up first, then the number of its
arguments is held against the entry, and then the first argument that does not suit its
parameter is reported with its position, counted from one. A call without fault becomes
the operation of its name, and all of its arguments are used. No argument is ever reported
as missing. -/
theorem call_verdict_exact (call : Call) :
    ((∀ entry ∈ catalog, entry.name ≠ call.name) →
      call.validate = .error (.unknownFunction call.line call.source call.name)) ∧
    (∀ entry ∈ catalog, entry.name = call.name →
      (entry.arity.accepts call.args.length = false →
        call.validate =
          .error (.wrongArity call.line call.source call.name entry.arity call.args.length)) ∧
      (entry.arity.accepts call.args.length = true →
        (∀ index e p, FirstMisfit entry.params call.args index e p →
          ∃ reason, Complaint p.slot e reason ∧ call.validate =
            .error (.invalidArgument call.line call.source call.name (index + 1) p.name reason)) ∧
        ((∀ index, SuitedAt entry.params call.args index) →
          ∃ values, call.validate = .ok ⟨call.name, values⟩ ∧ Supplies entry.params call.args values))) ∧
    (∀ line source name position param reason,
      call.validate = .error (.invalidArgument line source name position param reason) →
        1 ≤ position ∧ position ≤ call.args.length ∧
          reason ≠ "missing argument" ∧ reason ≠ "expected at least one value") := by
  refine ⟨validate_absent, fun entry listed named => ⟨validate_refused listed named, fun admitted => ⟨?_, ?_⟩⟩,
    fun _ _ _ _ _ _ => invalid_argument_given⟩
  · intro index e p first
    rcases validate_settled listed named admitted with ⟨i, d, q, reason, misfit, said, verdict⟩ | ⟨suited, _⟩
    · obtain ⟨rfl, rfl, rfl⟩ := first_misfit_unique misfit first
      exact ⟨reason, said, verdict⟩
    · exact absurd (suited index) (first_misfit_unsuited first)
  · intro suited
    rcases validate_settled listed named admitted with ⟨i, d, q, reason, misfit, _⟩ | ⟨_, accepted⟩
    · exact absurd (suited i) (first_misfit_unsuited misfit)
    · exact accepted

end Calls

end Tabscript.CallVerdicts
