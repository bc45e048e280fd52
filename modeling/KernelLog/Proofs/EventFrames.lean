import KernelLog.Call
import Mathlib.Algebra.Order.Ring.Nat
import Mathlib.Data.List.DropRight

/-!
# Reading event records back

The tag of an event and the integers that some events carry are written least significant
byte first. `ofNatLittle` writes as many bytes of a number as it is asked for, and
`toNatLittle` reads them back; both widths of integers are cases of it, in two's complement.

An event does not say whether it has a type byte. A reader who knows gets tag, type byte
and payload back, and reads nothing but what is written. One who does not know cannot
tell a type byte from the first byte of a payload.
-/

namespace KernelLog

/-! ## Numbers as bytes -/

namespace Bytes

/-- As many bytes of a number as asked for, least significant first. -/
def ofNatLittle : (count : Nat) → Nat → Bytes
  | 0, _ => []
  | count + 1, number => UInt8.ofNat number :: ofNatLittle count (number / 256)

/-- The integer that bytes stand for in two's complement, least significant first: the upper half of
the numbers that so many bytes can hold stands for negative ones. -/
def toIntLittle (bytes : Bytes) : Int :=
  Int.bmod (toNatLittle bytes) (Nat.pow 256 bytes.length)

/-- There are as many bytes as were asked for. -/
theorem length_ofNatLittle (count number : Nat) : (ofNatLittle count number).length = count := by
  induction count generalizing number with
  | zero => rfl
  | succ count inductionHypothesis =>
    rw [ofNatLittle, List.length_cons, inductionHypothesis]

/-- Bytes hold a number below the power of 256 that is given by their number. -/
theorem toNatLittle_lt (bytes : Bytes) : toNatLittle bytes < 256 ^ bytes.length := by
  induction bytes with
  | nil => decide
  | cons byte rest inductionHypothesis =>
    have small : byte.toNat < 256 := byte.toNat_lt
    rw [toNatLittle, List.length_cons, pow_succ]
    omega

/-- Of a number that was written, so much is read back as there was room for. -/
theorem toNatLittle_ofNatLittle (count number : Nat) :
    toNatLittle (ofNatLittle count number) = number % 256 ^ count := by
  induction count generalizing number with
  | zero => rw [ofNatLittle, toNatLittle, pow_zero, Nat.mod_one]
  | succ count inductionHypothesis =>
    have lowest : (UInt8.ofNat number).toNat = number % 256 := UInt8.toNat_ofNat'
    rw [ofNatLittle, toNatLittle, inductionHypothesis, lowest, pow_succ', Nat.mod_mul]

/-- Bytes are written again as they were read. -/
theorem ofNatLittle_toNatLittle (bytes : Bytes) :
    ofNatLittle bytes.length (toNatLittle bytes) = bytes := by
  induction bytes with
  | nil => rfl
  | cons byte rest inductionHypothesis =>
    have small : byte.toNat < 256 := byte.toNat_lt
    have lowest : UInt8.ofNat (byte.toNat + 256 * toNatLittle rest) = byte := by
      apply UInt8.toNat_inj.mp
      rw [UInt8.toNat_ofNat']
      omega
    have others : (byte.toNat + 256 * toNatLittle rest) / 256 = toNatLittle rest := by omega
    rw [List.length_cons, toNatLittle, ofNatLittle, lowest, others, inductionHypothesis]

/-- The bytes of a 32-bit integer are four bytes of its unsigned number. -/
theorem ofInt32_eq (value : Int32) : ofInt32 value = ofNatLittle 4 value.toUInt32.toNat := by
  simp [ofInt32, ofNatLittle, ← UInt8.toNat_inj, Nat.shiftRight_eq_div_pow,
    Nat.div_div_eq_div_mul]

/-- The bytes of a 64-bit integer are eight bytes of its unsigned number. -/
theorem ofInt64_eq (value : Int64) : ofInt64 value = ofNatLittle 8 value.toUInt64.toNat := by
  simp [ofInt64, ofNatLittle, ← UInt8.toNat_inj, Nat.shiftRight_eq_div_pow,
    Nat.div_div_eq_div_mul]

/-- The four bytes of an integer hold its unsigned number. -/
theorem toNatLittle_ofInt32 (value : Int32) :
    toNatLittle (ofInt32 value) = value.toUInt32.toNat := by
  have small : value.toUInt32.toNat < 256 ^ 4 := value.toUInt32.toNat_lt
  rw [ofInt32_eq, toNatLittle_ofNatLittle, Nat.mod_eq_of_lt small]

/-- The eight bytes of an integer hold its unsigned number. -/
theorem toNatLittle_ofInt64 (value : Int64) :
    toNatLittle (ofInt64 value) = value.toUInt64.toNat := by
  have small : value.toUInt64.toNat < 256 ^ 8 := value.toUInt64.toNat_lt
  rw [ofInt64_eq, toNatLittle_ofNatLittle, Nat.mod_eq_of_lt small]

/-- A 32-bit integer is read back from its bytes. -/
theorem toInt32_ofInt32 (value : Int32) : toInt32 (ofInt32 value) = value := by
  rw [toInt32, toNatLittle_ofInt32, UInt32.ofNat_toNat, Int32.toInt32_toUInt32]

/-- Four bytes are those of the integer that is read from them. -/
theorem ofInt32_toInt32 (bytes : Bytes) (four : bytes.length = 4) :
    ofInt32 (toInt32 bytes) = bytes := by
  have small : toNatLittle bytes < 2 ^ 32 := by
    have bound := toNatLittle_lt bytes
    rwa [four] at bound
  have number : (toInt32 bytes).toUInt32.toNat = toNatLittle bytes :=
    UInt32.toNat_ofNat_of_lt' small
  rw [ofInt32_eq, number, ← four, ofNatLittle_toNatLittle]

/-- The bytes of a 32-bit integer stand for it in two's complement. -/
theorem toIntLittle_ofInt32 (value : Int32) : toIntLittle (ofInt32 value) = value.toInt := by
  have room : Nat.pow 256 (ofInt32 value).length = 2 ^ 32 := by
    rw [ofInt32_eq, length_ofNatLittle]
    rfl
  rw [toIntLittle, toNatLittle_ofInt32, room, Int32.toInt, BitVec.toInt_eq_toNat_bmod]
  rfl

example : toIntLittle (ofInt32 (-2)) = -2 := by decide

/-- The bytes of a 64-bit integer stand for it in two's complement. -/
theorem toIntLittle_ofInt64 (value : Int64) : toIntLittle (ofInt64 value) = value.toInt := by
  have room : Nat.pow 256 (ofInt64 value).length = 2 ^ 64 := by
    rw [ofInt64_eq, length_ofNatLittle]
    rfl
  rw [toIntLittle, toNatLittle_ofInt64, room, Int64.toInt, BitVec.toInt_eq_toNat_bmod]
  rfl

end Bytes

open Bytes

/-! ## Events -/

namespace EventRecord

/-- The event of a tag, a type byte unless there is none, and a payload. -/
def make (tag : Int32) (typeByte : Option UInt8) (payload : Bytes) : EventRecord :=
  match typeByte with
  | none => untyped tag payload
  | some typeByte => typed tag typeByte payload

/-- Reads the bytes of an event of which it is known whether it has a type byte. -/
def read? (isTyped : Bool) (bytes : Bytes) : Option EventRecord :=
  if isTyped then readTyped? bytes else readUntyped? bytes

/-- An event is read without a type byte exactly when it has none and the bytes are its own. -/
theorem readUntyped_iff (bytes : Bytes) (record : EventRecord) :
    readUntyped? bytes = some record ↔ record.typeByte = none ∧ bytes = record.encode := by
  constructor
  · intro taken
    unfold readUntyped? at taken
    split at taken
    next a b c d payload =>
      obtain rfl : untyped _ payload = record := Option.some.inj taken
      refine ⟨rfl, ?_⟩
      rw [encode, untyped, ofInt32_toInt32 [a, b, c, d] rfl]
      rfl
    next => cases taken
  · obtain ⟨tag, typeByte, payload⟩ := record
    rintro ⟨rfl, rfl⟩
    have back : toInt32 (Bytes.ofInt32 tag) = tag := toInt32_ofInt32 tag
    exact congrArg (fun tag => some (untyped tag payload)) back

/-- An event is read with a type byte exactly when it has one and the bytes are its own. -/
theorem readTyped_iff (bytes : Bytes) (record : EventRecord) :
    readTyped? bytes = some record ↔ record.typeByte.isSome ∧ bytes = record.encode := by
  constructor
  · intro taken
    unfold readTyped? at taken
    split at taken
    next a b c d typeByte payload =>
      obtain rfl : typed _ typeByte payload = record := Option.some.inj taken
      refine ⟨rfl, ?_⟩
      rw [encode, typed, ofInt32_toInt32 [a, b, c, d] rfl]
      rfl
    next => cases taken
  · obtain ⟨tag, typeByte, payload⟩ := record
    rintro ⟨isTyped, rfl⟩
    obtain ⟨typeByte, rfl⟩ := Option.isSome_iff_exists.mp isTyped
    have back : toInt32 (Bytes.ofInt32 tag) = tag := toInt32_ofInt32 tag
    exact congrArg (fun tag => some (typed tag typeByte payload)) back

/-- Who knows whether an event has a type byte reads exactly what is written. -/
theorem read_iff_encoded (isTyped : Bool) (bytes : Bytes) (record : EventRecord) :
    read? isTyped bytes = some record ↔
      record.typeByte.isSome = isTyped ∧ bytes = record.encode := by
  cases isTyped with
  | false => rw [read?, if_neg Bool.false_ne_true, readUntyped_iff, Option.isSome_eq_false_iff,
      Option.isNone_iff_eq_none]
  | true => rw [read?, if_pos rfl, readTyped_iff]

/-- Events have the same bytes and are of one kind only if they are the same. -/
theorem encode_inj_iff (first second : EventRecord) :
    first.encode = second.encode ∧ first.typeByte.isSome = second.typeByte.isSome ↔
      first = second := by
  constructor
  · rintro ⟨bytes, kind⟩
    have firstRead : read? first.typeByte.isSome first.encode = some first :=
      (read_iff_encoded _ _ _).mpr ⟨rfl, rfl⟩
    have secondRead : read? second.typeByte.isSome second.encode = some second :=
      (read_iff_encoded _ _ _).mpr ⟨rfl, rfl⟩
    rw [bytes, kind, secondRead] at firstRead
    exact (Option.some.inj firstRead).symm
  · rintro rfl
    exact ⟨rfl, rfl⟩

/-- An event holds what it was made of. -/
theorem make_eq (tag : Int32) (typeByte : Option UInt8) (payload : Bytes) :
    make tag typeByte payload = { tag := tag, typeByte := typeByte, payload := payload } := by
  cases typeByte <;> rfl

/-- The parts, the bytes and the length of an event agree. -/
theorem views_agree (record : EventRecord) :
    record.segments.flatten = record.encode ∧ record.encode.length = record.encodedLength ∧
      record.segments.length = if record.typeByte.isSome then 3 else 2 := by
  obtain ⟨tag, typeByte, payload⟩ := record
  have four : (Bytes.ofInt32 tag).length = 4 := rfl
  have parts : segments ⟨tag, typeByte, payload⟩ =
      Bytes.ofInt32 tag :: (typeByte.toList.map ([·]) ++ [payload]) := by
    cases typeByte <;> rfl
  refine ⟨?_, ?_, ?_⟩
  · cases typeByte <;> simp [parts, encode]
  · simp only [encode, encodedLength, List.length_append, four]
  · cases typeByte <;> rfl

/-- The last bytes of an event are its payload. -/
theorem rtake_encode (record : EventRecord) :
    record.encode.rtake record.payload.length = record.payload := by
  have front : record.encode.length - record.payload.length =
      (Bytes.ofInt32 record.tag ++ record.typeByte.toList).length := by
    rw [encode, List.length_append, Nat.add_sub_cancel]
  rw [List.rtake, front, encode, List.drop_left]

end EventRecord

/-- The bytes of the frame of an event are those of the event. -/
theorem Frame.bytes_ofEvent (event : EventRecord) : (Frame.ofEvent event).bytes = event.encode :=
  event.views_agree.1

/-- So the frame ends with the payload. -/
theorem Frame.rtake_ofEvent (event : EventRecord) :
    (Frame.ofEvent event).bytes.rtake event.payload.length = event.payload := by
  rw [bytes_ofEvent, event.rtake_encode]

/-- Events are read back, by those who know whether they have a type byte.

Whatever an event is made of, the three ways to its bytes agree, it has two parts or three, and it
holds what it was made of. Its first four bytes stand for the tag in two's complement, and behind
them are the type byte, if there is one, and the payload. A reader who knows of the type byte
accepts exactly the bytes of events of that kind, and gets the event; so events of one kind have
different bytes unless they are the same. Across the kinds this fails: a type byte cannot be told
from the first byte of a payload. The frame of an event that carries an integer has 9 or 13 bytes,
and the last four or eight of them stand for the integer. -/
theorem events_are_read_back :
    (∀ (tag : Int32) (typeByte : Option UInt8) (payload : Bytes),
      let record := EventRecord.make tag typeByte payload
      (record.segments.flatten = record.encode ∧ record.encode.length = record.encodedLength ∧
        record.segments.length = if typeByte.isSome then 3 else 2) ∧
      (record.tag = tag ∧ record.typeByte = typeByte ∧ record.payload = payload) ∧
      toIntLittle (record.encode.take 4) = tag.toInt ∧
      record.encode.drop 4 = typeByte.toList ++ payload ∧
      EventRecord.read? typeByte.isSome record.encode = some record) ∧
    (∀ isTyped bytes record, EventRecord.read? isTyped bytes = some record ↔
      record.typeByte.isSome = isTyped ∧ bytes = record.encode) ∧
    (∀ first second : EventRecord,
      first.encode = second.encode ∧ first.typeByte.isSome = second.typeByte.isSome ↔
        first = second) ∧
    (∀ tag typeByte payload,
      (EventRecord.typed tag typeByte payload).encode =
        (EventRecord.untyped tag (typeByte :: payload)).encode) ∧
    (∀ tag value,
      let bytes := (Call.eventInt tag value).frame.bytes
      bytes.length = 9 ∧ toIntLittle (bytes.rtake 4) = value.toInt) ∧
    (∀ tag value,
      let bytes := (Call.eventLong tag value).frame.bytes
      bytes.length = 13 ∧ toIntLittle (bytes.rtake 8) = value.toInt) := by
  refine ⟨fun tag typeByte payload => ?_, EventRecord.read_iff_encoded,
    EventRecord.encode_inj_iff, fun tag typeByte payload => ?_, fun tag value => ?_,
    fun tag value => ?_⟩
  · intro record
    have holds : record = ⟨tag, typeByte, payload⟩ := EventRecord.make_eq tag typeByte payload
    have encoded : record.encode = Bytes.ofInt32 tag ++ (typeByte.toList ++ payload) := by
      rw [holds, EventRecord.encode, List.append_assoc]
    have views := record.views_agree
    have read : EventRecord.read? record.typeByte.isSome record.encode = some record :=
      (EventRecord.read_iff_encoded _ _ _).mpr ⟨rfl, rfl⟩
    have sameType : record.typeByte = typeByte := by rw [holds]
    rw [sameType] at views read
    refine ⟨views, ⟨by rw [holds], sameType, by rw [holds]⟩, ?_, ?_, read⟩
    · have front : record.encode.take 4 = Bytes.ofInt32 tag := by rw [encoded]; rfl
      rw [front, toIntLittle_ofInt32]
    · rw [encoded]
      rfl
  · simp only [EventRecord.encode, EventRecord.typed, EventRecord.untyped, Option.toList_some,
      Option.toList_none, List.append_nil, List.append_assoc, List.singleton_append]
  · -- The payload is what the frame ends with, so the integer is read off the payload.
    intro bytes
    have payload : bytes.rtake 4 = Bytes.ofInt32 value :=
      Frame.rtake_ofEvent (EventRecord.ofInt32 tag value)
    exact ⟨rfl, by rw [payload, toIntLittle_ofInt32]⟩
  · intro bytes
    have payload : bytes.rtake 8 = Bytes.ofInt64 value :=
      Frame.rtake_ofEvent (EventRecord.ofInt64 tag value)
    exact ⟨rfl, by rw [payload, toIntLittle_ofInt64]⟩

end KernelLog
