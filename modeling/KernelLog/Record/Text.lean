import KernelLog.Priority
import KernelLog.Bytes
/-!
# Text records

A text record is a priority byte, a tag and a message; tag and message each end in a NUL and hold no
other. That makes a stream of records readable without lengths: `read?` takes one record off a
stream and `readAll?` a whole stream.
-/
namespace KernelLog

/-- A text record. Tag and message carry their terminator. -/
structure TextRecord where
  priority : Priority
  terminatedTag : Bytes
  terminatedMessage : Bytes
  deriving DecidableEq, Repr

namespace TextRecord

/-- The record of a tag and a message, each cut at its first NUL. -/
def make (priority : Priority) (tag message : Bytes) : TextRecord where
  priority := priority
  terminatedTag := Bytes.nulTerminated tag
  terminatedMessage := Bytes.nulTerminated message

/-- The tag without its terminator. -/
def tag (record : TextRecord) : Bytes :=
  record.terminatedTag.dropLast

/-- The message without its terminator. -/
def message (record : TextRecord) : Bytes :=
  record.terminatedMessage.dropLast

/-- The three parts a record is written in. -/
def segments (record : TextRecord) : List Bytes :=
  [[record.priority.toByte], record.terminatedTag, record.terminatedMessage]

/-- The bytes of a record as a reader of the channel sees them. -/
def encode (record : TextRecord) : Bytes :=
  record.priority.toByte :: (record.terminatedTag ++ record.terminatedMessage)

/-- The number of bytes of a record. -/
def encodedLength (record : TextRecord) : Nat :=
  1 + record.terminatedTag.length + record.terminatedMessage.length

/-- What a reader learns from a record: its first byte, whatever it is, its tag and its message. -/
structure Reading where
  priorityByte : UInt8
  tag : Bytes
  message : Bytes
  deriving DecidableEq, Repr

/-- What a reader learns from this record. -/
def reading (record : TextRecord) : Reading where
  priorityByte := record.priority.toByte
  tag := record.tag
  message := record.message

/-- Takes the bytes up to the first NUL off a stream, and the NUL with them. -/
def readField? : Bytes → Option (Bytes × Bytes)
  | [] => none
  | byte :: rest =>
    if byte = 0 then some ([], rest)
    else (readField? rest).map fun (field, left) => (byte :: field, left)

/-- Takes one record off a stream. -/
def read? : Bytes → Option (Reading × Bytes)
  | [] => none
  | first :: rest => do
    let (tag, rest) ← readField? rest
    let (message, rest) ← readField? rest
    pure ({ priorityByte := first, tag := tag, message := message }, rest)

/-- A field taken off a stream leaves a shorter stream. -/
theorem readField?_shorter {stream field rest : Bytes}
    (taken : readField? stream = some (field, rest)) : rest.length < stream.length := by
  induction stream generalizing field with
  | nil => simp [readField?] at taken
  | cons byte tail ih =>
    by_cases ended : byte = 0
    · simp only [readField?, if_pos ended, Option.some.injEq, Prod.mk.injEq] at taken
      simp [← taken.2]
    · simp only [readField?, if_neg ended, Option.map_eq_some_iff, Prod.mk.injEq] at taken
      obtain ⟨⟨inner, left⟩, found, _, rfl⟩ := taken
      have : left.length < tail.length := ih found
      simp only [List.length_cons]
      omega

/-- A record taken off a stream leaves a shorter stream. -/
theorem read?_shorter {stream rest : Bytes} {reading : Reading}
    (taken : read? stream = some (reading, rest)) : rest.length < stream.length := by
  cases stream with
  | nil => simp [read?] at taken
  | cons first tail =>
    simp only [read?, Option.bind_eq_bind, Option.bind_eq_some_iff, Option.pure_def,
      Option.some.injEq, Prod.mk.injEq] at taken
    obtain ⟨⟨tag, afterTag⟩, readTag, ⟨message, afterMessage⟩, readMessage, _, rfl⟩ := taken
    have shorter : afterTag.length < tail.length := readField?_shorter readTag
    have : afterMessage.length < afterTag.length := readField?_shorter readMessage
    simp only [List.length_cons]
    omega

/-- Reads a stream to its end, record by record. A stream that stops within a record is refused. -/
def readAll? (stream : Bytes) : Option (List Reading) :=
  if stream = [] then some []
  else
    match taken : read? stream with
    | none => none
    | some (reading, rest) =>
      have := read?_shorter taken
      (readAll? rest).map (reading :: ·)
termination_by stream.length

end TextRecord
end KernelLog
