import KernelLog.Bytes
/-!
# Event records

An event record is a 32-bit tag in little-endian two's complement, for a typed event one type byte,
and a payload that runs to the end of the frame. Nothing in the bytes tells a typed event from an
untyped one: a reader has to know which it reads.
-/
namespace KernelLog

/-- The type bytes with a name of their own. Any other byte may be used as well. -/
inductive EventKind
  | int
  | long
  | string
  | list
  deriving DecidableEq, Repr

namespace EventKind

/-- The byte of a named type. -/
def toByte : EventKind → UInt8
  | int => 0
  | long => 1
  | string => 2
  | list => 3

end EventKind

namespace Bytes

/-- The four bytes of a 32-bit integer, least significant first. -/
def ofInt32 (value : Int32) : Bytes :=
  let word := value.toUInt32
  [word.toUInt8, (word >>> 8).toUInt8, (word >>> 16).toUInt8, (word >>> 24).toUInt8]

/-- The eight bytes of a 64-bit integer, least significant first. -/
def ofInt64 (value : Int64) : Bytes :=
  let word := value.toUInt64
  [word.toUInt8, (word >>> 8).toUInt8, (word >>> 16).toUInt8, (word >>> 24).toUInt8,
    (word >>> 32).toUInt8, (word >>> 40).toUInt8, (word >>> 48).toUInt8, (word >>> 56).toUInt8]

/-- The number that bytes stand for, least significant first. -/
def toNatLittle : Bytes → Nat
  | [] => 0
  | byte :: rest => byte.toNat + 256 * toNatLittle rest

/-- The 32-bit integer that the bytes stand for in two's complement. -/
def toInt32 (bytes : Bytes) : Int32 :=
  (UInt32.ofNat (toNatLittle bytes)).toInt32

/-- The 64-bit integer that the bytes stand for in two's complement. -/
def toInt64 (bytes : Bytes) : Int64 :=
  (UInt64.ofNat (toNatLittle bytes)).toInt64

end Bytes

/-- An event record. -/
structure EventRecord where
  tag : Int32
  typeByte : Option UInt8
  payload : Bytes
  deriving DecidableEq

namespace EventRecord

/-- An event without a type byte. -/
def untyped (tag : Int32) (payload : Bytes) : EventRecord where
  tag := tag
  typeByte := none
  payload := payload

/-- An event with a type byte, which need not be one that has a name. -/
def typed (tag : Int32) (typeByte : UInt8) (payload : Bytes) : EventRecord where
  tag := tag
  typeByte := some typeByte
  payload := payload

/-- An event that carries a 32-bit integer. -/
def ofInt32 (tag value : Int32) : EventRecord :=
  typed tag EventKind.int.toByte (Bytes.ofInt32 value)

/-- An event that carries a 64-bit integer. -/
def ofInt64 (tag : Int32) (value : Int64) : EventRecord :=
  typed tag EventKind.long.toByte (Bytes.ofInt64 value)

/-- The two parts an event is written in, or three with a type byte. -/
def segments (record : EventRecord) : List Bytes :=
  match record.typeByte with
  | none => [Bytes.ofInt32 record.tag, record.payload]
  | some typeByte => [Bytes.ofInt32 record.tag, [typeByte], record.payload]

/-- The bytes of an event as a reader of the channel sees them. -/
def encode (record : EventRecord) : Bytes :=
  Bytes.ofInt32 record.tag ++ record.typeByte.toList ++ record.payload

/-- The number of bytes of an event. -/
def encodedLength (record : EventRecord) : Nat :=
  4 + record.typeByte.toList.length + record.payload.length

/-- Reads the bytes of an event that has no type byte. -/
def readUntyped? : Bytes → Option EventRecord
  | a :: b :: c :: d :: payload => some (untyped (Bytes.toInt32 [a, b, c, d]) payload)
  | _ => none

/-- Reads the bytes of an event that has a type byte. -/
def readTyped? : Bytes → Option EventRecord
  | a :: b :: c :: d :: typeByte :: payload =>
    some (typed (Bytes.toInt32 [a, b, c, d]) typeByte payload)
  | _ => none

end EventRecord
end KernelLog
