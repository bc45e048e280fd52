import KernelLog.Proofs.NulTermination
import KernelLog.Record.Text
import Mathlib.Tactic.IntervalCases

/-!
# Streams of text records

A text record carries no length. Its two fields hold no NUL but the one that ends
each, so a reader finds the end of a record by counting two of them, and a stream
of records is read back record by record although a NUL is also the priority byte
of a record of unknown priority.

`read_all_iff` is the law behind this: a stream is read to its end exactly when it
is the concatenation of what was read. A reader learns of a record its priority
byte, and tag and message up to their first NUL; two lists of records that agree
in that much are one stream.
-/

namespace KernelLog

/-- Every byte up to 8 is the byte of a priority. -/
theorem Priority.exists_of_byte (byte : UInt8) (small : byte ≤ 8) :
    ∃ priority : Priority, priority.toByte = byte := by
  have bound : byte.toNat ≤ 8 := UInt8.le_iff_toNat_le.mp small
  have same : byte = UInt8.ofNat byte.toNat := UInt8.ofNat_toNat.symm
  generalize byte.toNat = number at bound same
  interval_cases number <;> subst same
  exacts [⟨.unknown, rfl⟩, ⟨.default, rfl⟩, ⟨.verbose, rfl⟩, ⟨.debug, rfl⟩, ⟨.info, rfl⟩,
    ⟨.warn, rfl⟩, ⟨.error, rfl⟩, ⟨.fatal, rfl⟩, ⟨.silent, rfl⟩]

/-- A priority is the one that its byte stands for, so no two have one byte. -/
theorem Priority.of_byte_to_byte (priority : Priority) :
    Priority.ofByte? priority.toByte = some priority := by
  cases priority <;> rfl

namespace TextRecord

open Bytes

/-! ## Reading accepts exactly what is written -/

/-- The bytes that a reading stands for: its first byte, and both fields with their NUL. -/
def Reading.bytes (reading : Reading) : Bytes :=
  reading.priorityByte :: (reading.tag ++ 0 :: (reading.message ++ [0]))

/-- Neither field of a reading holds a NUL. -/
def Reading.Clean (reading : Reading) : Prop :=
  0 ∉ reading.tag ∧ 0 ∉ reading.message

/-- A field is read off a stream exactly when the stream begins with it and a NUL, and it holds
none itself. -/
theorem read_field_iff (stream field rest : Bytes) :
    readField? stream = some (field, rest) ↔ 0 ∉ field ∧ stream = field ++ 0 :: rest := by
  induction stream generalizing field rest with
  | nil => simp [readField?]
  | cons byte tail inductionHypothesis =>
    by_cases ended : byte = 0
    · cases field with
      | nil => simp [readField?, ended]
      | cons other field =>
        simp only [readField?, if_pos ended, Option.some.injEq, Prod.mk.injEq, List.cons_append,
          List.cons.injEq, reduceCtorEq, false_and, false_iff, not_and]
        intro free same
        exact absurd (same.symm.trans ended) fun nul => free (by simp [nul])
    · cases field with
      | nil => simp [readField?, ended]
      | cons other field =>
        simp only [readField?, if_neg ended, Option.map_eq_some_iff, Prod.exists, Prod.mk.injEq,
          List.cons.injEq, inductionHypothesis, List.mem_cons, not_or, List.cons_append]
        constructor
        · rintro ⟨inner, left, ⟨free, rfl⟩, ⟨rfl, rfl⟩, rfl⟩
          exact ⟨⟨fun nul => ended nul.symm, free⟩, rfl, rfl⟩
        · rintro ⟨⟨_, free⟩, rfl, same⟩
          exact ⟨field, rest, ⟨free, same⟩, ⟨rfl, rfl⟩, rfl⟩

/-- A record is read off a stream exactly when the stream begins with its bytes and its fields are
clean. -/
theorem read_iff (stream rest : Bytes) (reading : Reading) :
    read? stream = some (reading, rest) ↔ reading.Clean ∧ stream = reading.bytes ++ rest := by
  obtain ⟨first, tag, message⟩ := reading
  cases stream with
  | nil => simp [read?, Reading.bytes]
  | cons byte tail =>
    simp only [read?, Option.bind_eq_bind, Option.bind_eq_some_iff, Option.pure_def, Prod.exists,
      Option.some.injEq, Prod.mk.injEq, Reading.mk.injEq, read_field_iff, Reading.Clean,
      Reading.bytes, List.cons_append, List.append_assoc, List.cons.injEq, List.nil_append]
    constructor
    · rintro ⟨_, _, ⟨tagFree, rfl⟩, _, _, ⟨messageFree, rfl⟩, ⟨rfl, rfl, rfl⟩, rfl⟩
      exact ⟨⟨tagFree, messageFree⟩, rfl, rfl⟩
    · rintro ⟨⟨tagFree, messageFree⟩, rfl, rfl⟩
      exact ⟨tag, _, ⟨tagFree, rfl⟩, message, rest, ⟨messageFree, rfl⟩, ⟨rfl, rfl, rfl⟩, rfl⟩

/-- A stream is read to its end exactly when it is the concatenation of the readings' bytes and all
fields are clean.

Induct over the readings. The empty list is what an empty stream gives, and only that; otherwise the
first reading is taken off the stream, and what is left is shorter and read in the same way. -/
theorem read_all_iff (stream : Bytes) (readings : List Reading) :
    readAll? stream = some readings ↔
      (∀ reading ∈ readings, reading.Clean) ∧ stream = readings.flatMap Reading.bytes := by
  induction readings generalizing stream with
  | nil =>
    rw [readAll?]
    by_cases ended : stream = []
    · simp [ended]
    · rw [if_neg ended]
      split <;> simp [ended]
  | cons reading others inductionHypothesis =>
    have nonempty : reading.bytes ++ others.flatMap Reading.bytes ≠ [] := by simp [Reading.bytes]
    rw [readAll?, List.flatMap_cons, List.forall_mem_cons]
    by_cases ended : stream = []
    · simp [ended, nonempty.symm]
    · rw [if_neg ended]
      split
      · rename_i refused
        have never :
            ¬ (reading.Clean ∧ stream = reading.bytes ++ others.flatMap Reading.bytes) := by
          intro held
          simp [(read_iff _ _ _).mpr held] at refused
        simp only [reduceCtorEq, false_iff]
        exact fun held => never ⟨held.1.1, held.2⟩
      · rename_i first rest taken
        obtain ⟨clean, rfl⟩ := (read_iff _ _ _).mp taken
        simp only [Option.map_eq_some_iff, List.cons.injEq]
        constructor
        · rintro ⟨found, readRest, rfl, rfl⟩
          obtain ⟨allClean, rfl⟩ := (inductionHypothesis rest).mp readRest
          exact ⟨⟨clean, allClean⟩, rfl⟩
        · rintro ⟨⟨readingClean, allClean⟩, same⟩
          have again := (read_iff _ _ reading).mpr ⟨readingClean, same⟩
          obtain ⟨rfl, rfl⟩ : first = reading ∧ rest = others.flatMap Reading.bytes := by
            simpa [taken] using again
          exact ⟨others, (inductionHypothesis _).mpr ⟨allClean, rfl⟩, rfl, rfl⟩

/-! ## Lists of records -/

/-- What a caller wants recorded: a priority, and a tag and a message of any bytes. -/
structure Entry where
  priority : Priority
  tag : Bytes
  message : Bytes
  deriving DecidableEq, Repr

namespace Entry

/-- The record that is made of an entry. -/
def record (entry : Entry) : TextRecord := make entry.priority entry.tag entry.message

/-- What a reader can learn of an entry: nothing that stands behind a NUL. -/
def reading (entry : Entry) : Reading where
  priorityByte := entry.priority.toByte
  tag := cutAtNul entry.tag
  message := cutAtNul entry.message

/-- The visible part of an entry: its priority, and its tag and message up to their first NUL. -/
def visible (entry : Entry) : Priority × Bytes × Bytes :=
  (entry.priority, cutAtNul entry.tag, cutAtNul entry.message)

end Entry

/-- The bytes of the records of some entries, one record after another. -/
def stream (entries : List Entry) : Bytes := entries.flatMap (·.record.encode)

/-- The encoding of a record is its priority byte and both cut fields, each with one NUL. -/
theorem encode_make (priority : Priority) (tag message : Bytes) :
    (make priority tag message).encode =
      priority.toByte :: (cutAtNul tag ++ 0 :: (cutAtNul message ++ [0])) := by
  simp [encode, make, terminated_eq]

/-- Without the NUL that ends it, a field is what was given, cut. -/
theorem fields_make (priority : Priority) (tag message : Bytes) :
    (make priority tag message).tag = cutAtNul tag ∧
      (make priority tag message).message = cutAtNul message := by
  simp [TextRecord.tag, TextRecord.message, make, terminated_eq]

/-- The encoded record is the bytes of what a reader learns of it. -/
theorem Entry.encode_record (entry : Entry) : entry.record.encode = entry.reading.bytes :=
  encode_make entry.priority entry.tag entry.message

/-- The stream of some entries is the bytes of what a reader learns of them. -/
theorem stream_eq (entries : List Entry) :
    stream entries = (entries.map Entry.reading).flatMap Reading.bytes := by
  simp only [stream, List.flatMap_map, Entry.encode_record]

/-- What a reader learns of an entry is clean. -/
theorem Entry.reading_clean (entry : Entry) : entry.reading.Clean :=
  ⟨nul_not_mem_cut entry.tag, nul_not_mem_cut entry.message⟩

/-- Reading a stream of records gives what can be learnt of its entries, all and in their order. -/
theorem read_all_stream (entries : List Entry) :
    readAll? (stream entries) = some (entries.map Entry.reading) := by
  refine (read_all_iff _ _).mpr ⟨?_, stream_eq entries⟩
  simp only [List.forall_mem_map]
  exact fun entry _ => entry.reading_clean

/-- What can be learnt of entries is exactly their visible parts. -/
theorem readings_eq_iff (first second : List Entry) :
    first.map Entry.reading = second.map Entry.reading ↔
      first.map Entry.visible = second.map Entry.visible := by
  let shown : Priority × Bytes × Bytes → Reading := fun part => ⟨part.1.toByte, part.2.1, part.2.2⟩
  have injective : ∀ one other, shown one = shown other → one = other := by
    rintro ⟨priority, tag, message⟩ ⟨otherPriority, otherTag, otherMessage⟩ same
    obtain ⟨sameByte, rfl, rfl⟩ := Reading.mk.inj same
    have samePriority := congrArg Priority.ofByte? sameByte
    rw [Priority.of_byte_to_byte, Priority.of_byte_to_byte] at samePriority
    exact congrArg (fun common => (common, tag, message)) (Option.some.inj samePriority)
  have through : Entry.reading = shown ∘ Entry.visible := rfl
  rw [through, ← List.map_map, ← List.map_map]
  exact List.map_inj_right injective

/-- A clean reading that begins with the byte of a priority is all that can be learnt of an entry,
the one with its very fields. -/
theorem Reading.exists_entry (reading : Reading) (clean : reading.Clean)
    (known : reading.priorityByte ≤ 8) :
    ∃ entry : Entry, entry.reading = reading ∧ entry.tag = reading.tag ∧
      entry.message = reading.message := by
  obtain ⟨priority, same⟩ := Priority.exists_of_byte reading.priorityByte known
  refine ⟨⟨priority, reading.tag, reading.message⟩, ?_, rfl, rfl⟩
  simp only [Entry.reading, same, cut_of_free _ clean.1, cut_of_free _ clean.2]

/-- Clean readings that all begin with bytes of priorities are those of some entries. -/
theorem exists_entries (readings : List Reading) (clean : ∀ reading ∈ readings, reading.Clean)
    (known : ∀ reading ∈ readings, reading.priorityByte ≤ 8) :
    ∃ entries : List Entry, entries.map Entry.reading = readings ∧
      entries.map (·.tag) = readings.map (·.tag) ∧
      entries.map (·.message) = readings.map (·.message) := by
  induction readings with
  | nil => exact ⟨[], rfl, rfl, rfl⟩
  | cons reading others inductionHypothesis =>
    rw [List.forall_mem_cons] at clean known
    obtain ⟨entry, same, tag, message⟩ := reading.exists_entry clean.1 known.1
    obtain ⟨entries, allSame, tags, messages⟩ := inductionHypothesis clean.2 known.2
    exact ⟨entry :: entries, by simp [same, allSame], by simp [tag, tags],
      by simp [message, messages]⟩

/-- A text record delimits itself and loses nothing before the first NUL of its fields.

The three ways to its bytes agree; behind the priority byte there are exactly two NULs, the last
byte among them; and its fields are the given ones, cut. Read back, a stream gives the priority, cut
tag and cut message of every record in order. Conversely, whatever is read to its end with no first
byte above 8 is the stream of the records that were read. So two lists of records make one stream
exactly when their priorities, cut tags and cut messages agree. -/
theorem streams_are_self_delimiting :
    (∀ (priority : Priority) (tag message : Bytes),
      let record := make priority tag message
      record.segments.flatten = record.encode ∧ record.encode.length = record.encodedLength ∧
      record.encode = priority.toByte :: (cutAtNul tag ++ 0 :: (cutAtNul message ++ [0])) ∧
      record.encode.tail.count 0 = 2 ∧ record.encode.tail.getLast? = some 0 ∧
      record.tag = cutAtNul tag ∧ record.message = cutAtNul message) ∧
    (∀ entries : List Entry,
      readAll? (stream entries) = some (entries.map Entry.reading)) ∧
    (∀ (bytes : Bytes) (readings : List Reading), readAll? bytes = some readings →
      (∀ reading ∈ readings, reading.priorityByte ≤ 8) →
      ∃ entries : List Entry, entries.map Entry.reading = readings ∧
        entries.map (·.tag) = readings.map (·.tag) ∧
        entries.map (·.message) = readings.map (·.message) ∧ stream entries = bytes) ∧
    (∀ first second : List Entry,
      stream first = stream second ↔ first.map Entry.visible = second.map Entry.visible) := by
  refine ⟨?_, read_all_stream, ?_, ?_⟩
  · intro priority tag message
    have exact := encode_make priority tag message
    have tagNuls := List.count_eq_zero.mpr (nul_not_mem_cut tag)
    have messageNuls := List.count_eq_zero.mpr (nul_not_mem_cut message)
    obtain ⟨tagCut, messageCut⟩ := fields_make priority tag message
    refine ⟨by simp [segments, encode], ?_, exact, ?_, ?_, tagCut, messageCut⟩
    · simp only [encode, encodedLength, List.length_cons, List.length_append]
      omega
    · rw [exact]
      simp [List.count_append, tagNuls, messageNuls]
    · rw [exact]
      simp [List.getLast?_cons]
  · intro bytes readings taken known
    obtain ⟨clean, whole⟩ := (read_all_iff bytes readings).mp taken
    obtain ⟨entries, same, tags, messages⟩ := exists_entries readings clean known
    exact ⟨entries, same, tags, messages, by rw [stream_eq, same, whole]⟩
  · intro first second
    rw [← readings_eq_iff]
    constructor
    · intro same
      have read := read_all_stream first
      rw [same, read_all_stream second] at read
      exact (Option.some.inj read).symm
    · intro same
      rw [stream_eq, stream_eq, same]

/-- A record of unknown priority with empty fields is three NULs, and is told from its neighbour. -/
theorem three_nuls_are_a_record :
    readAll? [0, 0, 0, 8, 65, 0, 66, 0] = some [⟨0, [], []⟩, ⟨8, [65], [66]⟩] ∧
    ∃ entries : List Entry, entries.map Entry.reading = [⟨0, [], []⟩, ⟨8, [65], [66]⟩] ∧
      entries.map (·.tag) = [[], [65]] ∧ entries.map (·.message) = [[], [66]] ∧
      stream entries = [0, 0, 0, 8, 65, 0, 66, 0] := by
  have taken : readAll? [0, 0, 0, 8, 65, 0, 66, 0] = some [⟨0, [], []⟩, ⟨8, [65], [66]⟩] := by cbv
  exact ⟨taken, streams_are_self_delimiting.2.2.1 _ _ taken (by decide)⟩

end TextRecord
end KernelLog
