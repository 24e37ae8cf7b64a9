import Tabscript.Text.Utf8

/-! Texts as bytes, read back whole and cut off.

The bytes of a character are described by the ranges that its bytes may come from. Reading
takes them off as one unit, and takes what a cut leaves of them as one unit too, because
every beginning of a character could still have become one. So the bytes of a text read as
the text, and a cut leaves the characters in front of it and at most one replacement. -/
namespace Tabscript.EncodedTexts
open Text

/-- The well-formed bytes of a character, by their number. -/
inductive CharBytes (ch : Char) : List UInt8 → Prop where
  | one {a : UInt8} (lead : a.toNat < 0x80) (code : ch.toNat = a.toNat) : CharBytes ch [a]
  | two {a b : UInt8} (lead : 0xC2 ≤ a.toNat ∧ a.toNat ≤ 0xDF) (second : isTail b = true)
    (code : ch.toNat = a.toNat % 32 * 64 + tailBits b) : CharBytes ch [a, b]
  | three {a b c : UInt8} (lead : 0xE0 ≤ a.toNat ∧ a.toNat ≤ 0xEF) (second : isSecond a b = true)
    (third : isTail c = true) (code : ch.toNat = (a.toNat % 16 * 64 + tailBits b) * 64 + tailBits c) :
    CharBytes ch [a, b, c]
  | four {a b c d : UInt8} (lead : 0xF0 ≤ a.toNat ∧ a.toNat ≤ 0xF4) (second : isSecond a b = true)
    (third : isTail c = true) (fourth : isTail d = true)
    (code : ch.toNat = ((a.toNat % 8 * 64 + tailBits b) * 64 + tailBits c) * 64 + tailBits d) :
    CharBytes ch [a, b, c, d]

/-- Bytes that some character begins with. They may be all of its bytes. -/
def Begins (front : List UInt8) : Prop :=
  ∃ ch, front <+: String.utf8EncodeChar ch

section Characters

variable {a b c d first : UInt8} {ch : Char} {rest front back tail : List UInt8}

theorem is_tail_iff : isTail b = true ↔ 0x80 ≤ b.toNat ∧ b.toNat ≤ 0xBF := by
  simp [isTail, UInt8.le_iff_toNat_le]

/-- What a second byte has to satisfy: it continues a character, and four first bytes narrow its range. -/
theorem is_second_iff : isSecond a b = true ↔ (0x80 ≤ b.toNat ∧ b.toNat ≤ 0xBF) ∧
    (a.toNat = 0xE0 → 0xA0 ≤ b.toNat) ∧ (a.toNat = 0xED → b.toNat ≤ 0x9F) ∧
    (a.toNat = 0xF0 → 0x90 ≤ b.toNat) ∧ (a.toNat = 0xF4 → b.toNat ≤ 0x8F) := by
  simp only [isSecond, secondBounds, Bool.and_eq_true, decide_eq_true_eq, UInt8.le_iff_toNat_le, ← UInt8.toNat_inj,
    UInt8.reduceToNat]
  repeat' split
  all_goals
    simp only [UInt8.reduceToNat]
    omega

private theorem tail_byte (n : Nat) :
    isTail (UInt8.ofNat (n % 64 + 128)) = true ∧ tailBits (UInt8.ofNat (n % 64 + 128)) = n % 64 := by
  rw [is_tail_iff, tailBits, UInt8.toNat_ofNat']
  omega

private theorem lead_byte {n : Nat} (small : n < 256) : (UInt8.ofNat n).toNat = n := by
  rw [UInt8.toNat_ofNat', Nat.mod_eq_of_lt small]

/-- How a character is written, by its code. -/
theorem encode_char (ch : Char) : String.utf8EncodeChar ch =
    if ch.toNat ≤ 127 then [UInt8.ofNat ch.toNat]
    else if ch.toNat ≤ 2047 then [UInt8.ofNat (ch.toNat / 64 % 32 + 192), UInt8.ofNat (ch.toNat % 64 + 128)]
    else if ch.toNat ≤ 65535 then [UInt8.ofNat (ch.toNat / 4096 % 16 + 224),
      UInt8.ofNat (ch.toNat / 64 % 64 + 128), UInt8.ofNat (ch.toNat % 64 + 128)]
    else [UInt8.ofNat (ch.toNat / 262144 % 8 + 240), UInt8.ofNat (ch.toNat / 4096 % 64 + 128),
      UInt8.ofNat (ch.toNat / 64 % 64 + 128), UInt8.ofNat (ch.toNat % 64 + 128)] :=
  rfl

/-- The bytes that a character is written with are well-formed. -/
private theorem char_bytes (ch : Char) : CharBytes ch (String.utf8EncodeChar ch) := by
  have valid : ch.toNat < 0xD800 ∨ 0xDFFF < ch.toNat ∧ ch.toNat < 0x110000 := ch.valid
  obtain ⟨last, lastBits⟩ := tail_byte ch.toNat
  obtain ⟨middle, middleBits⟩ := tail_byte (ch.toNat / 64)
  obtain ⟨early, earlyBits⟩ := tail_byte (ch.toNat / 4096)
  rw [encode_char]
  split
  · have lead := lead_byte (n := ch.toNat) (by omega)
    exact .one (by omega) lead.symm
  split
  · have lead := lead_byte (n := ch.toNat / 64 % 32 + 192) (by omega)
    refine .two (by omega) last ?_
    rw [lead, lastBits]
    omega
  split
  · have lead := lead_byte (n := ch.toNat / 4096 % 16 + 224) (by omega)
    have second := lead_byte (n := ch.toNat / 64 % 64 + 128) (by omega)
    refine .three (by omega) ?_ last ?_
    · rw [is_second_iff]
      omega
    · rw [lead, middleBits, lastBits]
      omega
  · have lead := lead_byte (n := ch.toNat / 262144 % 8 + 240) (by omega)
    have second := lead_byte (n := ch.toNat / 4096 % 64 + 128) (by omega)
    refine .four (by omega) ?_ middle last ?_
    · rw [is_second_iff]
      omega
    · rw [lead, earlyBits, middleBits, lastBits]
      omega

private theorem tail_code (tail : isTail b = true) : b.toNat = tailBits b + 128 ∧ tailBits b < 64 := by
  rw [is_tail_iff] at tail
  rw [tailBits]
  omega

private theorem second_tail (second : isSecond a b = true) : isTail b = true :=
  is_tail_iff.mpr (is_second_iff.mp second).1

private theorem byte_of_code {n : Nat} (code : a.toNat = n) : a = UInt8.ofNat n := by
  rw [← code, UInt8.ofNat_toNat]

/-- A character has no other well-formed bytes than those it is written with. -/
theorem char_bytes_eq {bytes : List UInt8} (written : CharBytes ch bytes) : bytes = String.utf8EncodeChar ch := by
  rw [encode_char]
  cases written with
  | one lead code =>
    rw [if_pos (by omega)]
    exact congrArg (· :: []) (byte_of_code code.symm)
  | two lead second code =>
    have last := tail_code second
    rw [if_neg (by omega), if_pos (by omega)]
    simp only [List.cons.injEq, and_true]
    exact ⟨byte_of_code (by omega), byte_of_code (by omega)⟩
  | three lead second third code =>
    have middle := tail_code (second_tail second)
    have last := tail_code third
    have narrow := is_second_iff.mp second
    rw [if_neg (by omega), if_neg (by omega), if_pos (by omega)]
    simp only [List.cons.injEq, and_true]
    exact ⟨byte_of_code (by omega), byte_of_code (by omega), byte_of_code (by omega)⟩
  | four lead second third fourth code =>
    have early := tail_code (second_tail second)
    have middle := tail_code third
    have last := tail_code fourth
    have narrow := is_second_iff.mp second
    rw [if_neg (by omega), if_neg (by omega), if_neg (by omega)]
    simp only [List.cons.injEq, and_true]
    exact ⟨byte_of_code (by omega), byte_of_code (by omega), byte_of_code (by omega), byte_of_code (by omega)⟩

/-- Which reading a first byte calls for, decided by its range. -/
private theorem lead_ranges (first : UInt8) :
    (first < 0x80 ↔ first.toNat < 0x80) ∧
    ((0xC2 ≤ first && first ≤ 0xDF) = true ↔ 0xC2 ≤ first.toNat ∧ first.toNat ≤ 0xDF) ∧
    ((0xE0 ≤ first && first ≤ 0xEF) = true ↔ 0xE0 ≤ first.toNat ∧ first.toNat ≤ 0xEF) ∧
    ((0xF0 ≤ first && first ≤ 0xF4) = true ↔ 0xF0 ≤ first.toNat ∧ first.toNat ≤ 0xF4) := by
  simp only [UInt8.lt_iff_toNat_lt, UInt8.le_iff_toNat_le, Bool.and_eq_true, decide_eq_true_eq]
  exact ⟨Iff.rfl, Iff.rfl, Iff.rfl, Iff.rfl⟩

/-- A character is taken off the front of whatever follows it. -/
theorem unit_whole (bytes : CharBytes ch (first :: tail)) (rest : List UInt8) :
    unit first (tail ++ rest) = (some ch, tail.length) := by
  have back {n : Nat} (code : ch.toNat = n) : Char.ofNat n = ch := by
    rw [← code, Char.ofNat_toNat]
  obtain ⟨low, two, three, four⟩ := lead_ranges first
  unfold unit
  cases bytes with
  | one lead code =>
    rw [if_pos (low.mpr lead), back code]
    rfl
  | two lead second code =>
    rw [if_neg (by rw [low]; omega), if_pos (two.mpr lead)]
    simp [second, back code]
  | three lead second third code =>
    rw [if_neg (by rw [low]; omega), if_neg (by rw [two]; omega), if_pos (three.mpr lead)]
    simp [second, third, back code]
  | four lead second third fourth code =>
    rw [if_neg (by rw [low]; omega), if_neg (by rw [two]; omega), if_neg (by rw [three]; omega), if_pos (four.mpr lead)]
    simp [second, third, fourth, back code]

private theorem code_kept {n : Nat} (valid : n < 0xD800 ∨ 0xDFFF < n ∧ n < 0x110000) : (Char.ofNat n).toNat = n := by
  rw [Char.ofNat, dif_pos valid]
  rfl

/-- Bytes within the ranges are the bytes of a character; the ranges leave no other codes. -/
private theorem two_bytes (lead : 0xC2 ≤ a.toNat ∧ a.toNat ≤ 0xDF) (second : isTail b = true) :
    CharBytes (Char.ofNat (a.toNat % 32 * 64 + tailBits b)) [a, b] := by
  have last := tail_code second
  exact .two lead second (code_kept (by omega))

private theorem three_bytes (lead : 0xE0 ≤ a.toNat ∧ a.toNat ≤ 0xEF) (second : isSecond a b = true)
    (third : isTail c = true) :
    CharBytes (Char.ofNat ((a.toNat % 16 * 64 + tailBits b) * 64 + tailBits c)) [a, b, c] := by
  have narrow := is_second_iff.mp second
  have middle := tail_code (second_tail second)
  have last := tail_code third
  exact .three lead second third (code_kept (by omega))

private theorem four_bytes (lead : 0xF0 ≤ a.toNat ∧ a.toNat ≤ 0xF4) (second : isSecond a b = true)
    (third : isTail c = true)
    (fourth : isTail d = true) :
    CharBytes (Char.ofNat (((a.toNat % 8 * 64 + tailBits b) * 64 + tailBits c) * 64 + tailBits d)) [a, b, c, d] := by
  have narrow := is_second_iff.mp second
  have early := tail_code (second_tail second)
  have middle := tail_code third
  have last := tail_code fourth
  exact .four lead second third fourth (code_kept (by omega))

private theorem begins_of_bytes (front : List UInt8) (written : CharBytes ch (front ++ tail)) : Begins front := by
  refine ⟨ch, ?_⟩
  rw [← char_bytes_eq written]
  exact List.prefix_append _ _

/-- What a unit says about the bytes that it was read off. -/
def Taken (first : UInt8) (rest : List UInt8) : Option Char × Nat → Prop
  | (some ch, count) => ∃ tail more, CharBytes ch (first :: tail) ∧ rest = tail ++ more ∧ count = tail.length
  | (none, count) => ∃ held more, rest = held ++ more ∧ count = held.length ∧ (held = [] ∨ Begins (first :: held))

private theorem taken_nothing : Taken first rest (none, 0) :=
  ⟨[], rest, rfl, rfl, .inl rfl⟩

theorem unit_taken (first : UInt8) (rest : List UInt8) : Taken first rest (unit first rest) := by
  obtain ⟨low, two, three, four⟩ := lead_ranges first
  -- The lowest byte that continues a character completes whatever was read before a piece broke off.
  have continues : isTail 0x80 = true := rfl
  unfold unit
  split
  · rename_i lead
    have small := low.mp lead
    exact ⟨[], rest, .one small (code_kept (by omega)), rfl, rfl⟩
  split
  · rename_i lead
    split
    · split
      · exact ⟨[_], _, two_bytes (two.mp lead) ‹_›, rfl, rfl⟩
      · exact taken_nothing
    · exact taken_nothing
  split
  · rename_i lead
    split
    · split
      · rename_i second
        have begun := begins_of_bytes [_, _] (three_bytes (three.mp lead) second continues)
        split
        · split
          · exact ⟨[_, _], _, three_bytes (three.mp lead) second ‹_›, rfl, rfl⟩
          · exact ⟨[_], _, rfl, rfl, .inr begun⟩
        · exact ⟨[_], _, rfl, rfl, .inr begun⟩
      · exact taken_nothing
    · exact taken_nothing
  split
  · rename_i lead
    split
    · split
      · rename_i second
        have begun := begins_of_bytes [_, _] (four_bytes (four.mp lead) second continues continues)
        split
        · split
          · rename_i third
            have further := begins_of_bytes [_, _, _] (four_bytes (four.mp lead) second third continues)
            split
            · split
              · exact ⟨[_, _, _], _, four_bytes (four.mp lead) second third ‹_›, rfl, rfl⟩
              · exact ⟨[_, _], _, rfl, rfl, .inr further⟩
            · exact ⟨[_, _], _, rfl, rfl, .inr further⟩
          · exact ⟨[_], _, rfl, rfl, .inr begun⟩
        · exact ⟨[_], _, rfl, rfl, .inr begun⟩
      · exact taken_nothing
    · exact taken_nothing
  · exact taken_nothing

/-- A beginning of a character belongs to one unit, whatever follows it. -/
theorem unit_covers (written : CharBytes ch (first :: tail)) (ahead : front <+: tail) (rest : List UInt8) :
    front.length ≤ (unit first (front ++ rest)).2 := by
  obtain ⟨low, two, three, four⟩ := lead_ranges first
  rcases Nat.lt_or_ge front.length tail.length with short | whole
  · rw [List.prefix_iff_eq_take.mp ahead, List.length_take_of_le ahead.length_le]
    unfold unit
    cases written with
    | one lead code => exact absurd short (Nat.not_lt_zero _)
    | two lead second code =>
      rw [Nat.lt_one_iff.mp short]
      exact Nat.zero_le _
    | three lead second third code =>
      rw [if_neg (by rw [low]; omega), if_neg (by rw [two]; omega), if_pos (three.mpr lead)]
      generalize front.length = count at short ⊢
      rcases count with _ | _ | more
      · exact Nat.zero_le _
      · simp only [List.take_succ_cons, List.cons_append, second, if_true]
        repeat' split
        all_goals simp
      · exact absurd short (by simp)
    | four lead second third fourth code =>
      rw [if_neg (by rw [low]; omega), if_neg (by rw [two]; omega), if_neg (by rw [three]; omega),
        if_pos (four.mpr lead)]
      generalize front.length = count at short ⊢
      rcases count with _ | _ | _ | more
      · exact Nat.zero_le _
      · simp only [List.take_succ_cons, List.cons_append, second, if_true]
        repeat' split
        all_goals simp
      · simp only [List.take_succ_cons, List.cons_append, second, third, if_true]
        repeat' split
        all_goals simp
      · exact absurd short (by simp)
  · obtain rfl := ahead.eq_of_length (Nat.le_antisymm ahead.length_le whole)
    have read := congrArg Prod.snd (unit_whole written rest)
    exact Nat.le_of_eq read.symm

/-- What is left of a character at the end of the bytes is one ill-formed unit. -/
theorem unit_cut (written : CharBytes ch (first :: tail)) {count : Nat} (short : count < tail.length) :
    unit first (tail.take count) = (none, count) := by
  have kept : (tail.take count).length = count := List.length_take_of_le (Nat.le_of_lt short)
  have covers := unit_covers written (List.take_prefix count tail) []
  have taken := unit_taken first (tail.take count)
  rw [List.append_nil, kept] at covers
  generalize unit first (tail.take count) = read at covers taken ⊢
  obtain ⟨kind, size⟩ := read
  dsimp only at covers
  cases kind with
  | none =>
    obtain ⟨held, more, split, rfl, _⟩ := taken
    rw [split, List.length_append] at kept
    rw [Nat.le_antisymm (by omega) covers]
  | some other =>
    -- The whole character would be read off its beginning alone.
    obtain ⟨held, more, whole, split, rfl⟩ := taken
    have early := unit_whole whole (more ++ tail.drop count)
    have late := unit_whole written []
    rw [← List.append_assoc, ← split, List.take_append_drop] at early
    rw [List.append_nil, early] at late
    have same : held.length = tail.length := congrArg Prod.snd late
    rw [split, List.length_append] at kept
    omega

end Characters

section Texts

variable {most : Nat} {s p : String} {ch : Char} {chars : List Char} {bytes rest : List UInt8}

theorem units_next (held : List (Option Char)) (first : UInt8) (rest : List UInt8) :
    unitsFrom 0 held (first :: rest) = unitsFrom (unit first rest).2 ((unit first rest).1 :: held) rest :=
  rfl

/-- What is still to be read does not depend on the units that are held. -/
theorem units_from (taken : Nat) (held : List (Option Char)) (bytes : List UInt8) :
    unitsFrom taken held bytes = held.reverse ++ units (bytes.drop taken) := by
  induction bytes generalizing taken held with
  | nil => simp [unitsFrom, units]
  | cons first rest ih =>
    cases taken with
    | succ more =>
      rw [unitsFrom, ih]
      rfl
    | zero =>
      rw [List.drop_zero, units, units_next, units_next, ih, ih, List.reverse_cons, List.append_assoc]
      rfl

@[simp] theorem units_cons (first : UInt8) (rest : List UInt8) :
    units (first :: rest) = (unit first rest).1 :: units (rest.drop (unit first rest).2) := by
  rw [units, units_next, units_from]
  rfl

theorem char_bytes_split (ch : Char) :
    ∃ first tail, String.utf8EncodeChar ch = first :: tail ∧ CharBytes ch (first :: tail) := by
  have bytes := char_bytes ch
  cases split : String.utf8EncodeChar ch with
  | nil =>
    rw [split] at bytes
    cases bytes
  | cons first tail =>
    rw [split] at bytes
    exact ⟨first, tail, rfl, bytes⟩

theorem units_char (ch : Char) (rest : List UInt8) :
    units (String.utf8EncodeChar ch ++ rest) = some ch :: units rest := by
  obtain ⟨first, tail, split, bytes⟩ := char_bytes_split ch
  rw [split, List.cons_append, units_cons, unit_whole bytes rest]
  dsimp only
  rw [List.drop_left]

/-- A character of which only some bytes are there, though at least one, is read as one ill-formed unit. -/
theorem units_cut {count : Nat} (some : 0 < count) (short : count < (String.utf8EncodeChar ch).length) :
    units ((String.utf8EncodeChar ch).take count) = [none] := by
  obtain ⟨first, tail, split, bytes⟩ := char_bytes_split ch
  rw [split] at short ⊢
  obtain ⟨more, rfl⟩ := Nat.exists_eq_succ_of_ne_zero (Nat.ne_of_gt some)
  have less : more < tail.length := Nat.lt_of_succ_lt_succ short
  have spent : (tail.take more).drop more = [] := by
    apply List.drop_eq_nil_of_le
    rw [List.length_take]
    exact Nat.min_le_left _ _
  rw [List.take_succ_cons, units_cons, unit_cut bytes less]
  dsimp only
  rw [spent]
  rfl

theorem units_chars (chars : List Char) (rest : List UInt8) :
    units (chars.flatMap String.utf8EncodeChar ++ rest) = chars.map some ++ units rest := by
  induction chars with
  | nil => rfl
  | cons ch more ih =>
    rw [List.flatMap_cons, List.append_assoc, units_char, ih]
    rfl

/-- The bytes of a text are read as the text, whatever is read behind them. -/
theorem decode_encoded (s : String) (rest : List UInt8) : decodeLossy (encode s ++ rest) = s ++ decodeLossy rest := by
  have shown : (s.toList.map some).map (fun c => c.getD replacement) = s.toList := by
    rw [List.map_map]
    exact List.map_id s.toList
  rw [decodeLossy, encode, units_chars, List.map_append, shown, String.ofList_append, String.ofList_toList]
  rfl

theorem decode_encode (s : String) : decodeLossy (encode s) = s := by
  have whole := decode_encoded s []
  rw [List.append_nil] at whole
  exact whole.trans (String.append_empty (s := s))

theorem decode_cut {count : Nat} (some : 0 < count) (short : count < (String.utf8EncodeChar ch).length) :
    decodeLossy ((String.utf8EncodeChar ch).take count) = String.singleton replacement := by
  rw [decodeLossy, units_cut some short]
  rfl

/-- The longest beginning of a text whose bytes are at most so many. -/
structure LongestWithin (most : Nat) (s p : String) : Prop where
  begins : p.toList <+: s.toList
  within : (encode p).length ≤ most
  longest : ∀ q : String, q.toList <+: s.toList → (encode q).length ≤ most → q.toList <+: p.toList

/-- A cut after so many bytes of a text falls between two of its characters, and not inside one. -/
def CutsBetween (most : Nat) (s : String) : Prop :=
  ∃ q : String, q.toList <+: s.toList ∧ (encode q).length = most

/-- The character that a cut falls on: all characters before it fit, and it does not. -/
theorem cut_character (chars : List Char) (beyond : most < (chars.flatMap String.utf8EncodeChar).length) :
    ∃ front ch back, chars = front ++ ch :: back ∧ (front.flatMap String.utf8EncodeChar).length ≤ most ∧
      most < (front.flatMap String.utf8EncodeChar).length + (String.utf8EncodeChar ch).length := by
  induction chars generalizing most with
  | nil => exact absurd beyond (Nat.not_lt_zero most)
  | cons first more ih =>
    rw [List.flatMap_cons, List.length_append] at beyond
    by_cases fits : (String.utf8EncodeChar first).length ≤ most
    · have later : most - (String.utf8EncodeChar first).length < (more.flatMap String.utf8EncodeChar).length := by
        omega
      obtain ⟨front, ch, back, rfl, within, past⟩ := ih later
      refine ⟨first :: front, ch, back, rfl, ?_, ?_⟩
      · rw [List.flatMap_cons, List.length_append]
        omega
      · rw [List.flatMap_cons, List.length_append]
        omega
    · exact ⟨[], first, more, rfl, Nat.zero_le most, by simpa using fits⟩

theorem encode_mono {q : String} (inside : q.toList <+: s.toList) : (encode q).length ≤ (encode s).length := by
  obtain ⟨rest, joined⟩ := inside
  rw [encode, encode, ← joined, List.flatMap_append, List.length_append]
  exact Nat.le_add_right _ _

variable {front back : List Char}

/-- What stands before the character that a cut falls on is the longest part that fits. -/
theorem longest_before (split : s.toList = front ++ ch :: back)
    (within : (front.flatMap String.utf8EncodeChar).length ≤ most)
    (past : most < (front.flatMap String.utf8EncodeChar).length + (String.utf8EncodeChar ch).length) :
    LongestWithin most s (String.ofList front) := by
  refine ⟨?_, ?_, ?_⟩
  · rw [String.toList_ofList, split]
    exact List.prefix_append _ _
  · rw [encode, String.toList_ofList]
    exact within
  · intro q inside fits
    rw [String.toList_ofList]
    have next : front ++ [ch] <+: s.toList := by
      rw [split, List.append_cons front ch back]
      exact List.prefix_append _ _
    -- A part that reached over the character would have all of its bytes.
    rcases List.prefix_or_prefix_of_prefix inside next with shorter | longer
    · rcases List.prefix_concat_iff.mp shorter with whole | before
      · rw [encode, whole, List.flatMap_append, List.length_append, List.flatMap_singleton] at fits
        omega
      · exact before
    · have reached : (encode (String.ofList (front ++ [ch]))).length ≤ (encode q).length := by
        apply encode_mono
        rw [String.toList_ofList]
        exact longer
      rw [encode, String.toList_ofList, List.flatMap_append, List.length_append, List.flatMap_singleton] at reached
      omega

theorem take_encoded (split : s.toList = front ++ ch :: back)
    (within : (front.flatMap String.utf8EncodeChar).length ≤ most)
    (past : most < (front.flatMap String.utf8EncodeChar).length + (String.utf8EncodeChar ch).length) :
    (encode s).take most = encode (String.ofList front) ++
      (String.utf8EncodeChar ch).take (most - (front.flatMap String.utf8EncodeChar).length) := by
  rw [encode, encode, String.toList_ofList, split, List.flatMap_append, List.flatMap_cons, List.take_append,
    List.take_of_length_le within, List.take_append_of_le_length (by omega)]

theorem cuts_between_iff (longest : LongestWithin most s p) : CutsBetween most s ↔ (encode p).length = most := by
  constructor
  · rintro ⟨q, inside, reached⟩
    have below := encode_mono (longest.longest q inside (Nat.le_of_eq reached))
    have within := longest.within
    omega
  · intro reached
    exact ⟨p, longest.begins, reached⟩

/-- A text that is cut off reads as its longest part that fits, and if the cut falls inside a
character one replacement stands for what is left of it. -/
theorem decode_taken (beyond : most < (encode s).length) :
    ∃ p, LongestWithin most s p ∧ (CutsBetween most s → decodeLossy ((encode s).take most) = p) ∧
      (¬ CutsBetween most s → decodeLossy ((encode s).take most) = p ++ String.singleton replacement) := by
  obtain ⟨front, ch, back, split, within, past⟩ := cut_character s.toList beyond
  have longest := longest_before split within past
  have length : (encode (String.ofList front)).length = (front.flatMap String.utf8EncodeChar).length := by
    rw [encode, String.toList_ofList]
  refine ⟨String.ofList front, longest, ?_, ?_⟩
  · intro between
    rw [cuts_between_iff longest, length] at between
    rw [take_encoded split within past, between, Nat.sub_self, List.take_zero, List.append_nil, decode_encode]
  · intro inside
    rw [cuts_between_iff longest, length] at inside
    rw [take_encoded split within past, decode_encoded, decode_cut (by omega) (by omega)]

end Texts
end Tabscript.EncodedTexts
