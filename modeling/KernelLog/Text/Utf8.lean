import KernelLog.Bytes
/-!
# Reading UTF-8

Bytes are read as a sequence of units: characters, and stretches of bytes that no character begins
with. A broken stretch is as long as possible, so it is the beginning of a well-formed character or
a single byte. `decode?` accepts bytes without a broken stretch; `decodeLossy` shows each broken
stretch as one replacement character.
-/
namespace KernelLog.Text.Utf8

/-- A character or a stretch of bytes that is no part of one. -/
inductive Reading
  | char (c : Char)
  | broken (bytes : Bytes)
  deriving DecidableEq

/-- Whether a byte continues a character that has begun. -/
def continues (byte : UInt8) : Bool :=
  0x80 ≤ byte && byte ≤ 0xBF

/-- Whether a byte may follow a given first byte of a three-byte character. The first byte `E0`
leaves out what fits in two bytes, and `ED` the surrogates. -/
def followsThree (first byte : UInt8) : Bool :=
  if first == 0xE0 then 0xA0 ≤ byte && byte ≤ 0xBF
  else if first == 0xED then 0x80 ≤ byte && byte ≤ 0x9F
  else continues byte

/-- Whether a byte may follow a given first byte of a four-byte character. The first byte `F0`
leaves out what fits in three bytes, and `F4` what lies beyond the last code point. -/
def followsFour (first byte : UInt8) : Bool :=
  if first == 0xF0 then 0x90 ≤ byte && byte ≤ 0xBF
  else if first == 0xF4 then 0x80 ≤ byte && byte ≤ 0x8F
  else continues byte

/-- The code point of a first byte's payload followed by continuation bytes. -/
def codePoint (payload : Nat) (following : List UInt8) : Char :=
  Char.ofNat (following.foldl (fun sum byte => sum * 64 + (byte.toNat - 0x80)) payload)

/-- Reads bytes from the left, one character or broken stretch after another. -/
def readings : Bytes → List Reading
  | [] => []
  | a :: rest =>
    if a < 0x80 then .char (Char.ofNat a.toNat) :: readings rest
    else if 0xC2 ≤ a && a ≤ 0xDF then
      match rest with
      | [] => [.broken [a]]
      | b :: rest =>
        if continues b then .char (codePoint (a.toNat - 0xC0) [b]) :: readings rest
        else .broken [a] :: readings (b :: rest)
    else if 0xE0 ≤ a && a ≤ 0xEF then
      match rest with
      | [] => [.broken [a]]
      | b :: rest =>
        if followsThree a b then
          match rest with
          | [] => [.broken [a, b]]
          | c :: rest =>
            if continues c then .char (codePoint (a.toNat - 0xE0) [b, c]) :: readings rest
            else .broken [a, b] :: readings (c :: rest)
        else .broken [a] :: readings (b :: rest)
    else if 0xF0 ≤ a && a ≤ 0xF4 then
      match rest with
      | [] => [.broken [a]]
      | b :: rest =>
        if followsFour a b then
          match rest with
          | [] => [.broken [a, b]]
          | c :: rest =>
            if continues c then
              match rest with
              | [] => [.broken [a, b, c]]
              | d :: rest =>
                if continues d then .char (codePoint (a.toNat - 0xF0) [b, c, d]) :: readings rest
                else .broken [a, b, c] :: readings (d :: rest)
            else .broken [a, b] :: readings (c :: rest)
        else .broken [a] :: readings (b :: rest)
    else .broken [a] :: readings rest

/-- The character of a reading; a broken stretch has none. -/
def Reading.char? : Reading → Option Char
  | .char c => some c
  | .broken _ => none

/-- The character that stands for a broken stretch. -/
def replacement : Char := Char.ofNat 0xFFFD

/-- The text of well-formed bytes. -/
def decode? (bytes : Bytes) : Option String :=
  ((readings bytes).mapM Reading.char?).map String.ofList

/-- The text of any bytes, each broken stretch replaced. -/
def decodeLossy (bytes : Bytes) : String :=
  String.ofList ((readings bytes).map fun reading => reading.char?.getD replacement)

end KernelLog.Text.Utf8
