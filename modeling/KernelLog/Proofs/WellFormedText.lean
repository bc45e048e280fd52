import KernelLog.Text.Utf8
import Mathlib.Tactic.SplitIfs

/-!
# Bytes that are text

The bytes of a text are read back as that text, and no other bytes are read as a text at
all. So whether bytes are well-formed is a question about texts and not about the reader:
they are if some text has them as its bytes.

The reader and the writer of a character meet in `Spells`, which lists the bytes that are
read as one character by the number of them. Each character is written as bytes that spell
it, and bytes that spell it are what it is written as.

As the reader goes from left to right, bytes of a text that begin the bytes of another are
those of a beginning of it: no cut within a character leaves a text.
-/

namespace KernelLog

namespace Text.Utf8

open String

/-! ## Bytes that follow -/

/-- The bytes within a character, as numbers. -/
theorem continues_iff (byte : UInt8) :
    continues byte = true ↔ 0x80 ≤ byte.toNat ∧ byte.toNat ≤ 0xBF := by
  simp only [continues, Bool.and_eq_true, decide_eq_true_eq, UInt8.le_iff_toNat_le]
  rfl

/-- The second byte of three is restricted behind two of the first bytes. -/
theorem followsThree_iff (first byte : UInt8) :
    followsThree first byte = true ↔ continues byte = true ∧
      (first.toNat = 0xE0 → 0xA0 ≤ byte.toNat) ∧ (first.toNat = 0xED → byte.toNat ≤ 0x9F) := by
  simp only [followsThree, continues, beq_iff_eq, Bool.and_eq_true, decide_eq_true_eq,
    UInt8.le_iff_toNat_le, ← UInt8.toNat_inj, UInt8.reduceToNat]
  split_ifs with least surrogate <;> simp only [Bool.and_eq_true, decide_eq_true_eq] <;> omega

/-- The second byte of four is restricted behind two of the first bytes as well. -/
theorem followsFour_iff (first byte : UInt8) :
    followsFour first byte = true ↔ continues byte = true ∧
      (first.toNat = 0xF0 → 0x90 ≤ byte.toNat) ∧ (first.toNat = 0xF4 → byte.toNat ≤ 0x8F) := by
  simp only [followsFour, continues, beq_iff_eq, Bool.and_eq_true, decide_eq_true_eq,
    UInt8.le_iff_toNat_le, ← UInt8.toNat_inj, UInt8.reduceToNat]
  split_ifs with least greatest <;> simp only [Bool.and_eq_true, decide_eq_true_eq] <;> omega

/-! ## The bytes of one character -/

/-- The bytes that are read as one character: a first byte, which says how many others there are,
and the others. -/
inductive Spells : Char → Bytes → Prop
  | one {a : UInt8} (first : a < 0x80) : Spells (Char.ofNat a.toNat) [a]
  | two {a b : UInt8} (first : 0xC2 ≤ a ∧ a ≤ 0xDF) (second : continues b = true) :
      Spells (codePoint (a.toNat - 0xC0) [b]) [a, b]
  | three {a b c : UInt8} (first : 0xE0 ≤ a ∧ a ≤ 0xEF) (second : followsThree a b = true)
      (third : continues c = true) : Spells (codePoint (a.toNat - 0xE0) [b, c]) [a, b, c]
  | four {a b c d : UInt8} (first : 0xF0 ≤ a ∧ a ≤ 0xF4) (second : followsFour a b = true)
      (third : continues c = true) (fourth : continues d = true) :
      Spells (codePoint (a.toNat - 0xF0) [b, c, d]) [a, b, c, d]

/-- Bytes that spell a character are read as that character, whatever follows them. -/
theorem Spells.reading {c : Char} {bytes : Bytes} (spells : Spells c bytes) (rest : Bytes) :
    readings (bytes ++ rest) = .char c :: readings rest := by
  cases spells with
  | one first =>
    rw [List.singleton_append, readings.eq_def]
    simp only [if_pos first]
  | @two a b first second =>
    have least : 0xC2 ≤ a.toNat := first.1
    have notOne : ¬ a < 0x80 := Nat.not_lt.mpr (by omega : 0x80 ≤ a.toNat)
    rw [List.cons_append, List.singleton_append, readings.eq_def]
    simp only [if_neg notOne, first, second, decide_true, Bool.and_self, if_true]
  | @three a b c first second third =>
    have least : 0xE0 ≤ a.toNat := first.1
    have notOne : ¬ a < 0x80 := Nat.not_lt.mpr (by omega : 0x80 ≤ a.toNat)
    have notTwo : ¬ a ≤ 0xDF := Nat.not_le.mpr (by omega : 0xDF < a.toNat)
    rw [List.cons_append, List.cons_append, List.singleton_append, readings.eq_def]
    simp only [if_neg notOne, notTwo, first, second, third, decide_true, decide_false,
      Bool.and_self, Bool.and_false, Bool.false_eq_true, if_true, if_false]
  | @four a b c d first second third fourth =>
    have least : 0xF0 ≤ a.toNat := first.1
    have notOne : ¬ a < 0x80 := Nat.not_lt.mpr (by omega : 0x80 ≤ a.toNat)
    have notTwo : ¬ a ≤ 0xDF := Nat.not_le.mpr (by omega : 0xDF < a.toNat)
    have notThree : ¬ a ≤ 0xEF := Nat.not_le.mpr (by omega : 0xEF < a.toNat)
    rw [List.cons_append, List.cons_append, List.cons_append, List.singleton_append,
      readings.eq_def]
    simp only [if_neg notOne, notTwo, notThree, first, second, third, fourth, decide_true,
      decide_false, Bool.and_self, Bool.and_false, Bool.false_eq_true, if_true, if_false]

/-- A code point is the number of its character, unless it is kept free for pairs or too great. -/
theorem toNat_ofNat_of_valid {code : Nat}
    (valid : code < 0xD800 ∨ 0xDFFF < code ∧ code < 0x110000) :
    (Char.ofNat code).val.toNat = code := by
  have known : code.isValidChar := valid
  rw [Char.ofNat, dif_pos known]
  rfl

/-- The byte of a number is the one that has this number. -/
theorem byte_eq {byte : UInt8} {number : Nat} (same : number = byte.toNat) :
    UInt8.ofNat number = byte := by
  rw [same, UInt8.ofNat_toNat]

/-- Bytes that spell a character are those that it is written as. -/
theorem Spells.encode {c : Char} {bytes : Bytes} (spells : Spells c bytes) :
    utf8EncodeChar c = bytes := by
  cases spells with
  | @one a first =>
    have small : a.toNat < 0x80 := first
    have code := @toNat_ofNat_of_valid a.toNat (by omega)
    simp only [utf8EncodeChar, code]
    rw [if_pos (by omega), byte_eq rfl]
  | @two a b first second =>
    have least : 0xC2 ≤ a.toNat := first.1
    have greatest : a.toNat ≤ 0xDF := first.2
    rw [continues_iff] at second
    have code := @toNat_ofNat_of_valid ((a.toNat - 0xC0) * 64 + (b.toNat - 0x80)) (by omega)
    simp only [utf8EncodeChar, codePoint, List.foldl_cons, List.foldl_nil, code]
    rw [if_neg (by omega), if_pos (by omega)]
    rw [byte_eq (by omega : _ = a.toNat), byte_eq (by omega : _ = b.toNat)]
  | @three a b c first second third =>
    have least : 0xE0 ≤ a.toNat := first.1
    have greatest : a.toNat ≤ 0xEF := first.2
    rw [followsThree_iff, continues_iff] at second
    rw [continues_iff] at third
    have code := @toNat_ofNat_of_valid
      (((a.toNat - 0xE0) * 64 + (b.toNat - 0x80)) * 64 + (c.toNat - 0x80)) (by omega)
    simp only [utf8EncodeChar, codePoint, List.foldl_cons, List.foldl_nil, code]
    rw [if_neg (by omega), if_neg (by omega), if_pos (by omega)]
    rw [byte_eq (by omega : _ = a.toNat), byte_eq (by omega : _ = b.toNat),
      byte_eq (by omega : _ = c.toNat)]
  | @four a b c d first second third fourth =>
    have least : 0xF0 ≤ a.toNat := first.1
    have greatest : a.toNat ≤ 0xF4 := first.2
    rw [followsFour_iff, continues_iff] at second
    rw [continues_iff] at third fourth
    have code := @toNat_ofNat_of_valid
      ((((a.toNat - 0xF0) * 64 + (b.toNat - 0x80)) * 64 + (c.toNat - 0x80)) * 64 +
        (d.toNat - 0x80)) (by omega)
    simp only [utf8EncodeChar, codePoint, List.foldl_cons, List.foldl_nil, code]
    rw [if_neg (by omega), if_neg (by omega), if_neg (by omega)]
    rw [byte_eq (by omega : _ = a.toNat), byte_eq (by omega : _ = b.toNat),
      byte_eq (by omega : _ = c.toNat), byte_eq (by omega : _ = d.toNat)]

section Written

variable {code : Nat}

/-- A code point below 128 is written as one byte that spells it. -/
theorem spells_one (below : code ≤ 0x7F) : Spells (Char.ofNat code) [UInt8.ofNat code] := by
  have first : (UInt8.ofNat code).toNat = code :=
    UInt8.toNat_ofNat_of_lt' (by omega : code < 256)
  have low : UInt8.ofNat code < 0x80 := by
    rw [UInt8.lt_iff_toNat_lt, first]
    exact Nat.lt_succ_of_le below
  have spells := Spells.one low
  rwa [first] at spells

/-- A code point of up to eleven bits is written as two bytes that spell it. -/
theorem spells_two (above : 0x7F < code) (below : code ≤ 0x7FF) :
    Spells (Char.ofNat code)
      [UInt8.ofNat (code / 64 % 32 + 192), UInt8.ofNat (code % 64 + 128)] := by
  have first := UInt8.toNat_ofNat_of_lt' (by omega : code / 64 % 32 + 192 < 256)
  have second := UInt8.toNat_ofNat_of_lt' (by omega : code % 64 + 128 < 256)
  generalize UInt8.ofNat (code / 64 % 32 + 192) = a at first
  generalize UInt8.ofNat (code % 64 + 128) = b at second
  have announced : 0xC2 ≤ a.toNat ∧ a.toNat ≤ 0xDF := by omega
  have spells := @Spells.two a b announced ((continues_iff b).mpr (by omega))
  have same : (a.toNat - 0xC0) * 64 + (b.toNat - 0x80) = code := by omega
  simpa only [codePoint, List.foldl_cons, List.foldl_nil, same] using spells

/-- A code point of up to sixteen bits is written as three bytes that spell it. -/
theorem spells_three (valid : code < 0xD800 ∨ 0xDFFF < code) (above : 0x7FF < code)
    (below : code ≤ 0xFFFF) :
    Spells (Char.ofNat code)
      [UInt8.ofNat (code / 4096 % 16 + 224), UInt8.ofNat (code / 64 % 64 + 128),
        UInt8.ofNat (code % 64 + 128)] := by
  have first := UInt8.toNat_ofNat_of_lt' (by omega : code / 4096 % 16 + 224 < 256)
  have second := UInt8.toNat_ofNat_of_lt' (by omega : code / 64 % 64 + 128 < 256)
  have third := UInt8.toNat_ofNat_of_lt' (by omega : code % 64 + 128 < 256)
  generalize UInt8.ofNat (code / 4096 % 16 + 224) = a at first
  generalize UInt8.ofNat (code / 64 % 64 + 128) = b at second
  generalize UInt8.ofNat (code % 64 + 128) = c at third
  have announced : 0xE0 ≤ a.toNat ∧ a.toNat ≤ 0xEF := by omega
  have follows : followsThree a b = true := by
    rw [followsThree_iff, continues_iff]
    omega
  have spells := @Spells.three a b c announced follows ((continues_iff c).mpr (by omega))
  have same : ((a.toNat - 0xE0) * 64 + (b.toNat - 0x80)) * 64 + (c.toNat - 0x80) = code := by
    omega
  simpa only [codePoint, List.foldl_cons, List.foldl_nil, same] using spells

/-- A code point of more bits is written as four bytes that spell it. -/
theorem spells_four (above : 0xFFFF < code) (valid : code < 0x110000) :
    Spells (Char.ofNat code)
      [UInt8.ofNat (code / 262144 % 8 + 240), UInt8.ofNat (code / 4096 % 64 + 128),
        UInt8.ofNat (code / 64 % 64 + 128), UInt8.ofNat (code % 64 + 128)] := by
  have first := UInt8.toNat_ofNat_of_lt' (by omega : code / 262144 % 8 + 240 < 256)
  have second := UInt8.toNat_ofNat_of_lt' (by omega : code / 4096 % 64 + 128 < 256)
  have third := UInt8.toNat_ofNat_of_lt' (by omega : code / 64 % 64 + 128 < 256)
  have fourth := UInt8.toNat_ofNat_of_lt' (by omega : code % 64 + 128 < 256)
  generalize UInt8.ofNat (code / 262144 % 8 + 240) = a at first
  generalize UInt8.ofNat (code / 4096 % 64 + 128) = b at second
  generalize UInt8.ofNat (code / 64 % 64 + 128) = c at third
  generalize UInt8.ofNat (code % 64 + 128) = d at fourth
  have announced : 0xF0 ≤ a.toNat ∧ a.toNat ≤ 0xF4 := by omega
  have follows : followsFour a b = true := by
    rw [followsFour_iff, continues_iff]
    omega
  have spells := @Spells.four a b c d announced follows ((continues_iff c).mpr (by omega))
    ((continues_iff d).mpr (by omega))
  have same : (((a.toNat - 0xF0) * 64 + (b.toNat - 0x80)) * 64 + (c.toNat - 0x80)) * 64 +
      (d.toNat - 0x80) = code := by omega
  simpa only [codePoint, List.foldl_cons, List.foldl_nil, same] using spells

end Written

/-- Every character is written as bytes that spell it. -/
theorem spells_encode (c : Char) : Spells c (utf8EncodeChar c) := by
  have valid : c.val.toNat < 0xD800 ∨ 0xDFFF < c.val.toNat ∧ c.val.toNat < 0x110000 := c.valid
  have self : Char.ofNat c.val.toNat = c := c.ofNat_toNat
  simp only [utf8EncodeChar]
  generalize c.val.toNat = code at valid self
  subst self
  split_ifs with one two three
  · exact spells_one one
  · exact spells_two (by omega) two
  · exact spells_three (by omega) (by omega) three
  · exact spells_four (by omega) (by omega)

/-! ## Whole texts -/

/-- The bytes that a reading was made from. -/
def Reading.bytes : Reading → Bytes
  | .char c => utf8EncodeChar c
  | .broken stretch => stretch

/-- No byte is lost in reading: the readings were made from all of them, in order.

Induct along the reader. A character was made from the bytes that spell it. -/
theorem bytes_readings (bytes : Bytes) : (readings bytes).flatMap Reading.bytes = bytes := by
  fun_induction readings bytes with
  | case1 => rfl
  | case2 a rest first inductionHypothesis =>
    rw [List.flatMap_cons, Reading.bytes, (Spells.one first).encode, inductionHypothesis]
    rfl
  | case4 a _ first b rest second inductionHypothesis =>
    rw [Bool.and_eq_true, decide_eq_true_eq, decide_eq_true_eq] at first
    rw [List.flatMap_cons, Reading.bytes, (Spells.two first second).encode, inductionHypothesis]
    rfl
  | case8 a _ _ first b second c rest third inductionHypothesis =>
    rw [Bool.and_eq_true, decide_eq_true_eq, decide_eq_true_eq] at first
    rw [List.flatMap_cons, Reading.bytes, (Spells.three first second third).encode,
      inductionHypothesis]
    rfl
  | case14 a _ _ _ first b second c third d rest fourth inductionHypothesis =>
    rw [Bool.and_eq_true, decide_eq_true_eq, decide_eq_true_eq] at first
    rw [List.flatMap_cons, Reading.bytes, (Spells.four first second third fourth).encode,
      inductionHypothesis]
    rfl
  | case3 | case6 | case7 | case11 | case12 | case13 => rfl
  | _ =>
    -- A broken stretch with more behind it was made from itself.
    rename_i inductionHypothesis
    rw [List.flatMap_cons, inductionHypothesis]
    rfl

/-- Readings are a text exactly if they are the characters of one. -/
theorem chars_iff (found : List Reading) (chars : List Char) :
    found.mapM Reading.char? = some chars ↔ found = chars.map .char := by
  induction found generalizing chars with
  | nil => simp [eq_comm]
  | cons first others inductionHypothesis =>
    cases first with
    | char c =>
      simp only [List.mapM_cons, Reading.char?, Option.pure_def, Option.bind_eq_bind,
        Option.bind_some, Option.bind_eq_some_iff, Option.some.injEq, inductionHypothesis]
      constructor
      · rintro ⟨more, rfl, rfl⟩
        rfl
      · intro same
        obtain ⟨d, more, rfl, same, rest⟩ := List.map_eq_cons_iff.mp same.symm
        exact ⟨more, rest.symm, by rw [Reading.char.inj same]⟩
    | broken stretch => cases chars <;> simp [Reading.char?]

/-- The characters of a text are read back from its bytes, whatever follows them. -/
theorem readings_append (chars : List Char) (rest : Bytes) :
    readings (chars.flatMap utf8EncodeChar ++ rest) = chars.map .char ++ readings rest := by
  induction chars with
  | nil => rfl
  | cons first others inductionHypothesis =>
    rw [List.flatMap_cons, List.append_assoc, (spells_encode first).reading, inductionHypothesis]
    rfl

/-- Bytes are read as a text exactly if they are its bytes. -/
theorem decode_iff (bytes : Bytes) (text : String) :
    decode? bytes = some text ↔ bytes = Bytes.ofText text := by
  rw [decode?, Option.map_eq_some_iff]
  constructor
  · rintro ⟨chars, read, rfl⟩
    rw [chars_iff] at read
    rw [← bytes_readings bytes, read, Bytes.ofText, String.toList_ofList, List.flatMap_map]
    rfl
  · rintro rfl
    refine ⟨text.toList, ?_, String.ofList_toList⟩
    have read := readings_append text.toList []
    rw [List.append_nil, readings, List.append_nil] at read
    rw [chars_iff, Bytes.ofText, read]

example : decode? [0xC3, 0xA9] = some "é" := by decide

end Text.Utf8

namespace Bytes

open Text.Utf8

/-- Texts with the same bytes are the same. -/
theorem ofText_inj_iff (first second : String) : ofText first = ofText second ↔ first = second := by
  constructor
  · intro same
    have read := (decode_iff (ofText first) second).mpr same
    rw [(decode_iff (ofText first) first).mpr rfl] at read
    exact Option.some.inj read
  · rintro rfl
    rfl

/-- A text begins with another exactly if its bytes begin with those of the other. -/
theorem ofText_begins_iff (first second : String) :
    ofText first <+: ofText second ↔ first.toList <+: second.toList := by
  constructor
  · rintro ⟨rest, whole⟩
    -- The reader finds the characters of the first text at the beginning of the second.
    have read := readings_append second.toList []
    rw [List.append_nil, ← ofText, ← whole, ofText, readings_append, readings,
      List.append_nil] at read
    have begins : first.toList.map Reading.char <+: second.toList.map Reading.char :=
      ⟨readings rest, read⟩
    exact (List.prefix_map_iff_of_injective fun _ _ => Reading.char.inj).mp begins
  · rintro ⟨rest, whole⟩
    rw [ofText, ofText, ← whole, List.flatMap_append]
    exact List.prefix_append _ _

end Bytes
end KernelLog
