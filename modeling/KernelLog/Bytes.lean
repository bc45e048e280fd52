/-!
# Byte strings

Everything a log device carries is a byte string. This module fixes the two rules that tags and
messages obey: a byte string ends at its first NUL, and on the wire it is followed by exactly one.
`cutAtNul` states the first rule, `terminate` the second together with whether a NUL had to be added.

The last definition, `overwrite`, is the only way bytes are stored anywhere in the library: into the
bounded line of a formatted message and into the contents of a file.
-/
namespace KernelLog

/-- A byte string. -/
abbrev Bytes := List UInt8

namespace Bytes

/-- The UTF-8 bytes of a text. -/
def ofText (text : String) : Bytes :=
  text.toList.flatMap String.utf8EncodeChar

/-- A byte string up to its first NUL, which is left out. Without a NUL it is the whole string. -/
def cutAtNul (bytes : Bytes) : Bytes :=
  bytes.takeWhile (· != 0)

/-- A byte string that ends in NUL, and whether that NUL had to be added to the bytes it was made
from. When it was not added, the result is a leading part of those bytes. -/
structure Terminated where
  bytes : Bytes
  added : Bool
  deriving DecidableEq

/-- Ends a byte string in its first NUL, and adds one when there is none. -/
def terminate (bytes : Bytes) : Terminated :=
  match bytes.findIdx? (· == 0) with
  | some position => { bytes := bytes.take (position + 1), added := false }
  | none => { bytes := bytes ++ [0], added := true }

/-- The bytes up to and including the first NUL, which is added when there is none. -/
def nulTerminated (bytes : Bytes) : Bytes :=
  (terminate bytes).bytes

/-- Stores bytes at an offset: what stood there is replaced, what stood before and behind is kept,
and a gap between the old end and the offset is filled with zeros. -/
def overwrite (old : Bytes) (offset : Nat) (new : Bytes) : Bytes :=
  old.take offset ++ List.replicate (offset - old.length) 0 ++ new ++ old.drop (offset + new.length)

/-- Storing within bounds keeps the length. -/
theorem length_overwrite (old : Bytes) (offset : Nat) (new : Bytes)
    (within : offset + new.length ≤ old.length) :
    (overwrite old offset new).length = old.length := by
  simp only [overwrite, List.length_append, List.length_take, List.length_replicate,
    List.length_drop]
  omega

/-- Storing right behind a leading part keeps that part, and replaces what followed it byte for
byte. -/
theorem overwrite_behind (kept rest new : Bytes) :
    overwrite (kept ++ rest) kept.length new = kept ++ new ++ rest.drop new.length := by
  simp [overwrite, List.drop_append]

end Bytes
end KernelLog
