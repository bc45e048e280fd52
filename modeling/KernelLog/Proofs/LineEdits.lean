import KernelLog.Proofs.BoundedLines

/-!
# Any history of a line

A line is edited in two ways, in any order and number: bytes are pushed, or a message
is written, of which formatting may break off. Whatever its history, a line depends
on nothing but the bytes presented to it so far, one after another.

The line comes with proofs that its length is within its storage. `Buffer` is the
same without them, where every access to the storage may fail. None does, and the
buffer goes along with the line.
-/

namespace KernelLog

namespace Bytes

/-- The bytes between two positions, if these are in order and within the string. -/
def slice? (bytes : Bytes) (start stop : Nat) : Option Bytes :=
  if start ≤ stop ∧ stop ≤ bytes.length then some ((bytes.take stop).drop start) else none

/-- Puts others in the place of the bytes between two positions, if these are in order, within the
string, and as far apart as there are others. -/
def replace? (bytes : Bytes) (start stop : Nat) (others : Bytes) : Option Bytes :=
  if start ≤ stop ∧ stop ≤ bytes.length ∧ others.length = stop - start then
    some (overwrite bytes start others)
  else none

/-- Puts a byte at a position, if that is within the string. -/
def set? (bytes : Bytes) (position : Nat) (byte : UInt8) : Option Bytes :=
  if position < bytes.length then some (overwrite bytes position [byte]) else none

/-- The leading bytes are there, as many as the string has. -/
theorem slice?_leading (bytes : Bytes) (stop : Nat) (within : stop ≤ bytes.length) :
    bytes.slice? 0 stop = some (bytes.take stop) := by
  simp [slice?, within]

/-- Bytes that end within the string find their place. -/
theorem replace?_within (bytes others : Bytes) (start : Nat)
    (within : start + others.length ≤ bytes.length) :
    bytes.replace? start (start + others.length) others = some (overwrite bytes start others) := by
  simp [replace?, within]

/-- So does a byte within the string. -/
theorem set?_within (bytes : Bytes) (position : Nat) (byte : UInt8)
    (within : position < bytes.length) :
    bytes.set? position byte = some (overwrite bytes position [byte]) := by
  simp [set?, within]

end Bytes

namespace Line

/-- What is done to a line. -/
inductive Edit
  | push (bytes : Bytes)
  | write (message : List Piece)

/-- The bytes that an edit presents to the line. -/
def Edit.presented : Edit → Bytes
  | push bytes => bytes
  | write message => written message

/-- The line after an edit. -/
def edit (line : Line) : Edit → Line
  | .push bytes => line.push bytes
  | .write message => line.write message

/-- The line after several edits. -/
def editAll (line : Line) (edits : List Edit) : Line :=
  edits.foldl edit line

/-- The bytes that several edits present to the line. -/
def presented (edits : List Edit) : Bytes :=
  edits.flatMap Edit.presented

/-! ## What the line holds -/

/-- An edit presents its bytes to the line. -/
theorem edit_holds (line : Line) (edit : Edit) (before : Bytes) (holds : line.Holds before) :
    (line.edit edit).Holds (before ++ edit.presented) := by
  cases edit with
  | push bytes => exact push_holds line before bytes holds
  | write message => exact write_holds line message before holds

/-- Several edits present theirs. -/
theorem editAll_holds (line : Line) (edits : List Edit) (before : Bytes)
    (holds : line.Holds before) : (line.editAll edits).Holds (before ++ presented edits) := by
  induction edits generalizing line before with
  | nil => simpa [editAll, presented] using holds
  | cons edit rest inductionHypothesis =>
    have edited := edit_holds line edit before holds
    have continued := inductionHypothesis _ _ edited
    simpa only [editAll, presented, List.foldl_cons, List.flatMap_cons, List.append_assoc]
      using continued

namespace Holds

variable {line other : Line} {all : Bytes}

/-- As many bytes are in use as were presented, up to the capacity. -/
theorem length_eq (holds : line.Holds all) : line.length = min 1023 all.length := by
  rw [holds.length, List.length_take]
  rfl

/-- The line is empty exactly if nothing was presented. -/
theorem isEmpty_iff (holds : line.Holds all) : line.isEmpty = true ↔ all = [] := by
  rw [isEmpty, beq_iff_eq, holds.length_eq, ← List.length_eq_zero_iff]
  omega

/-- The line is full exactly if as many bytes were presented as fit, or more. -/
theorem isFull_iff (holds : line.Holds all) : line.isFull = true ↔ 1023 ≤ all.length := by
  rw [isFull, beq_iff_eq, holds.length_eq, size]
  omega

/-- The storage behind the bytes in use is filled with NULs. -/
theorem unused (holds : line.Holds all) (position : Nat) (behind : line.length ≤ position)
    (within : position < 1024) : line.storage[position]? = some 0 := by
  have used : (all.take capacity).length ≤ position := holds.length ▸ behind
  rw [holds.storage, List.getElem?_append_right used, List.getElem?_replicate, if_pos]
  rw [size]
  omega

/-- The bytes presented make the line. -/
theorem unique (holds : line.Holds all) (same : other.Holds all) : other = line := by
  obtain ⟨storage, length, _, _⟩ := line
  obtain ⟨otherStorage, otherLength, _, _⟩ := other
  have lengths : otherLength = length := same.length.trans holds.length.symm
  have storages : otherStorage = storage := same.storage.trans holds.storage.symm
  subst lengths storages
  rfl

end Holds

/-! ## No access is out of range -/

/-- A storage and a length, of which nothing is known. -/
structure Buffer where
  storage : Bytes
  length : Nat

namespace Buffer

/-- Appends the leading bytes that still fit, and a terminator behind them. -/
def push? (buffer : Buffer) (bytes : Bytes) : Option Buffer := do
  let count := min (size - 1 - buffer.length) bytes.length
  let fitting ← bytes.slice? 0 count
  let filled ← buffer.storage.replace? buffer.length (buffer.length + count) fitting
  let ended ← filled.set? (buffer.length + count) 0
  pure { storage := ended, length := buffer.length + count }

/-- Appends the pieces of a message one after another, up to the first failure. -/
def write? : Buffer → List Piece → Option Buffer
  | buffer, [] => some buffer
  | buffer, .failure :: _ => some buffer
  | buffer, .text written :: rest => do
    let longer ← buffer.push? (Bytes.ofText written)
    longer.write? rest

/-- The buffer after an edit. -/
def edit? (buffer : Buffer) : Edit → Option Buffer
  | .push bytes => buffer.push? bytes
  | .write message => buffer.write? message

/-- The bytes in use. -/
def bytes? (buffer : Buffer) : Option Bytes :=
  buffer.storage.slice? 0 buffer.length

/-- The bytes in use and the byte behind them. -/
def bytesWithNul? (buffer : Buffer) : Option Bytes :=
  buffer.storage.slice? 0 (buffer.length + 1)

end Buffer

/-- A line without what is known of it. -/
def buffer (line : Line) : Buffer where
  storage := line.storage
  length := line.length

/-- A push finds everything it reaches for within its range, in the bytes and in the storage. -/
theorem push?_buffer (line : Line) (bytes : Bytes) :
    line.buffer.push? bytes = some (line.push bytes).buffer := by
  have below : line.length < 1024 := line.length_lt
  have stored : line.storage.length = 1024 := line.storage_length
  let fitting := bytes.take (size - 1 - line.length)
  have count : min (size - 1 - line.length) bytes.length = fitting.length :=
    List.length_take.symm
  have room : line.length + fitting.length < 1024 := by
    simp only [← count, size]
    omega
  have sliced : bytes.slice? 0 fitting.length = some fitting := by
    rw [Bytes.slice?_leading bytes _ (by rw [← count]; omega), ← count, ← List.take_eq_take_min]
  have filled := Bytes.replace?_within line.storage fitting line.length (by omega)
  have longer : (Bytes.overwrite line.storage line.length fitting).length = 1024 := by
    rw [Bytes.length_overwrite _ _ _ (by omega), stored]
  have ended := Bytes.set?_within (Bytes.overwrite line.storage line.length fitting)
    (line.length + fitting.length) 0 (by omega)
  simp only [Buffer.push?, buffer, count, sliced, filled, ended, Option.bind_eq_bind,
    Option.bind_some, Option.pure_def, push, fitting]

/-- Nor is anything out of range when a message is written. -/
theorem write?_buffer (line : Line) (message : List Piece) :
    line.buffer.write? message = some (line.write message).buffer := by
  induction message generalizing line with
  | nil => rfl
  | cons piece rest inductionHypothesis =>
    cases piece with
    | failure => rfl
    | text written =>
      simp only [Buffer.write?, push?_buffer, Option.bind_eq_bind, Option.bind_some,
        inductionHypothesis, write]

/-- Nor in several edits. -/
theorem editAll?_buffer (line : Line) (edits : List Edit) :
    edits.foldlM Buffer.edit? line.buffer = some (line.editAll edits).buffer := by
  induction edits generalizing line with
  | nil => rfl
  | cons edit rest inductionHypothesis =>
    have edited : line.buffer.edit? edit = some (line.edit edit).buffer := by
      cases edit with
      | push bytes => exact push?_buffer line bytes
      | write message => exact write?_buffer line message
    rw [List.foldlM_cons, edited, Option.bind_eq_bind, Option.bind_some,
      inductionHypothesis (line.edit edit)]
    rfl

/-- The bytes in use are within the storage, and so is the byte behind them. -/
theorem slices_buffer (line : Line) :
    line.buffer.bytes? = some line.bytes ∧ line.buffer.bytesWithNul? = some line.bytesWithNul := by
  have below : line.length < 1024 := line.length_lt
  have stored : line.storage.length = 1024 := line.storage_length
  exact ⟨Bytes.slice?_leading line.storage line.length (by omega),
    Bytes.slice?_leading line.storage (line.length + 1) (by omega)⟩

/-- A line is what was presented to it, whatever its history.

After any edits, and so after each of them, it has the first 1023 bytes of all that was presented in
use, and NULs behind; it is empty if that was nothing, and full if no further byte would fit. No
access to the storage or to the bytes of a push was out of range on the way, nor is one in reading
the line. Other edits that present the same bytes lead to the same line, whichever way these are cut
into pieces, pushes and messages. -/
theorem line_is_what_was_presented (edits : List Edit) :
    let line := empty.editAll edits
    let all := presented edits
    (line.bytes = all.take (min 1023 all.length) ∧ line.length = min 1023 all.length ∧
      (line.isEmpty = true ↔ all = []) ∧ (line.isFull = true ↔ 1023 ≤ all.length) ∧
      line.bytesWithNul = line.bytes ++ [0] ∧
      ∀ position, line.length ≤ position → position < 1024 →
        line.storage[position]? = some 0) ∧
    (edits.foldlM Buffer.edit? empty.buffer = some line.buffer ∧
      line.buffer.bytes? = some line.bytes ∧
      line.buffer.bytesWithNul? = some line.bytesWithNul) ∧
    ∀ others, presented others = all → empty.editAll others = line := by
  intro line all
  have holds : line.Holds all := editAll_holds empty edits [] empty_holds
  have used : all.take capacity = all.take (min 1023 all.length) := List.take_eq_take_min
  refine ⟨⟨?_, holds.length_eq, holds.isEmpty_iff, holds.isFull_iff, ?_, holds.unused⟩,
    ⟨editAll?_buffer empty edits, slices_buffer line⟩, fun others same => ?_⟩
  · rw [holds.bytes, used]
  · rw [holds.bytesWithNul, holds.bytes]
  · have otherHolds := editAll_holds empty others [] empty_holds
    rw [List.nil_append, same] at otherHolds
    exact holds.unique otherHolds

/-- A message breaks off behind a character of two bytes, of which one still fits; what follows
finds the line full. Cut apart within the character, with nothing in between but a message that
fails at once, the same bytes lead to the same line. -/
theorem half_a_character_fills_the_line :
    let edits : List Edit := [.push (List.replicate 1022 65),
      .write [.text "é", .failure, .text "lost"], .push [66]]
    let others : List Edit := [.push (List.replicate 1021 65), .push [65, 195],
      .write [.failure, .text "lost"], .write [.text ""], .push [169, 66]]
    let line := empty.editAll edits
    (presented others = presented edits ∧ 1023 ≤ (presented edits).length) ∧
    line.bytes = List.replicate 1022 65 ++ [195] ∧ line.isFull = true ∧
    line.bytesWithNul = List.replicate 1022 65 ++ [195, 0] ∧ line.storage[1023]? = some 0 ∧
    empty.editAll others = line := by
  intro edits others line
  have same : presented others = presented edits := by decide +kernel
  have filled : 1023 ≤ (presented edits).length := by decide +kernel
  obtain ⟨⟨bytes, length, _, full, ended, unused⟩, _, unique⟩ := line_is_what_was_presented edits
  have inUse : line.bytes = List.replicate 1022 65 ++ [195] := by
    rw [bytes]
    decide +kernel
  have last : line.length ≤ 1023 := by
    rw [length]
    exact Nat.min_le_left _ _
  refine ⟨⟨same, filled⟩, inUse, full.mpr filled, ?_, unused 1023 last (by decide),
    unique others same⟩
  rw [ended, inUse, List.append_assoc]
  rfl

end Line
end KernelLog
