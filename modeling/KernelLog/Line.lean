import KernelLog.Bytes
/-!
# Bounded lines

A formatted message is written into a buffer of 1024 bytes whose last byte is kept for the NUL, so
a line holds at most 1023 bytes. What does not fit is dropped without a word, and the cut falls
between bytes, not between characters.

Formatting may fail half-way. The failure is ignored: what was written before it stays, and what
would have come after it is not written.
-/
namespace KernelLog

/-- A part of a formatted message, in the order in which parts are written: some text, or the point
at which formatting fails. -/
inductive Piece
  | text (written : String)
  | failure
  deriving DecidableEq, Repr

/-- A message buffer. The unused part of the storage stays available behind the bytes in use, and
at least one byte is always left for the terminator. -/
structure Line where
  storage : Bytes
  length : Nat
  storage_length : storage.length = 1024
  length_lt : length < 1024

namespace Line

/-- The number of bytes in the storage, the terminator included. -/
def size : Nat := 1024

/-- The line that holds nothing. -/
def empty : Line where
  storage := List.replicate 1024 0
  length := 0
  storage_length := List.length_replicate
  length_lt := by decide

/-- Appends the leading bytes that still fit, and a terminator behind them. -/
def push (line : Line) (bytes : Bytes) : Line :=
  let fitting := bytes.take (size - 1 - line.length)
  have room : line.length + fitting.length < 1024 := by
    have := line.length_lt
    simp only [fitting, List.length_take, size]
    omega
  have stored : (Bytes.overwrite line.storage line.length fitting).length = 1024 := by
    rw [Bytes.length_overwrite _ _ _ (by have := line.storage_length; omega), line.storage_length]
  { storage :=
      Bytes.overwrite (Bytes.overwrite line.storage line.length fitting)
        (line.length + fitting.length) [0]
    length := line.length + fitting.length
    storage_length := by
      rw [Bytes.length_overwrite _ _ _ (by simp only [List.length_singleton]; omega), stored]
    length_lt := room }

/-- Appends the pieces of a message one after another, up to the first failure. -/
def write : Line → List Piece → Line
  | line, [] => line
  | line, .failure :: _ => line
  | line, .text written :: rest => (line.push (Bytes.ofText written)).write rest

/-- A fresh line with the given message. -/
def format (pieces : List Piece) : Line :=
  empty.write pieces

/-- The bytes in use. -/
def bytes (line : Line) : Bytes :=
  line.storage.take line.length

/-- The bytes in use and the byte behind them, which is the terminator. -/
def bytesWithNul (line : Line) : Bytes :=
  line.storage.take (line.length + 1)

/-- Whether nothing has been written. -/
def isEmpty (line : Line) : Bool :=
  line.length == 0

/-- Whether no further byte fits. -/
def isFull (line : Line) : Bool :=
  line.length == size - 1

/-- The message of a failed assertion. A message of the caller's own wins over the condition, even
if it turns out empty; the condition is copied as it is written and never read as a format. -/
def ofAssertion (condition : Option String) (message : Option (List Piece)) : Line :=
  match message, condition with
  | some pieces, _ => empty.write pieces
  | none, some condition =>
    (empty.push (Bytes.ofText "Assertion failed: ")).push (Bytes.ofText condition)
  | none, none => empty.push (Bytes.ofText "Unspecified assertion failed")

end Line
end KernelLog
