import KernelLog.Line

/-!
# What a bounded line holds

A line is written in pushes, and holds the first 1023 bytes of all that was pushed
together: where the cuts between the pushes fall does not matter, nor whether a
push came when the line was full already. Behind those bytes there is nothing but
NULs, of which there is always at least one.

`Holds` relates a line to the bytes presented to it so far. Each push extends what
was presented, so every line that can be reached holds what its pushes presented.
-/

namespace KernelLog.Line

/-- The number of bytes that a line can hold. -/
def capacity : Nat := 1023

/-- A line to which these bytes have been presented: it keeps as many as fit, and NULs behind. -/
structure Holds (line : Line) (presented : Bytes) : Prop where
  length : line.length = (presented.take capacity).length
  storage : line.storage =
    presented.take capacity ++ List.replicate (size - (presented.take capacity).length) 0

/-- The bytes of the pieces of a message, up to where its formatting fails. -/
def written : List Piece → Bytes
  | [] => []
  | .failure :: _ => []
  | .text first :: rest => Bytes.ofText first ++ written rest

/-- Nothing has been presented to the empty line. -/
theorem empty_holds : empty.Holds [] := ⟨rfl, rfl⟩

/-- Presenting more bytes keeps what the line holds and adds those of them that still fit. -/
theorem take_capacity_append (presented bytes : Bytes) :
    (presented ++ bytes).take capacity =
      presented.take capacity ++ bytes.take (capacity - (presented.take capacity).length) := by
  rw [List.take_append, List.length_take]
  congr 2
  omega

/-- A push presents its bytes to the line.

The bytes that fit are stored right behind those the line holds, and the NUL right behind them; both
replace NULs only, so behind the new end there are as many as the storage has room for. -/
theorem push_holds (line : Line) (presented bytes : Bytes) (holds : line.Holds presented) :
    (line.push bytes).Holds (presented ++ bytes) := by
  obtain ⟨length, storage⟩ := holds
  have fits := take_capacity_append presented bytes
  generalize presented.take capacity = kept at length storage fits
  have fitting : bytes.take (size - 1 - line.length) = bytes.take (capacity - kept.length) := by
    rw [length]
    rfl
  have room : kept.length + (bytes.take (capacity - kept.length)).length < size := by
    have below : line.length < size := line.length_lt
    simp only [List.length_take, size, capacity] at below ⊢
    omega
  generalize bytes.take (capacity - kept.length) = added at fits fitting room
  have first : Bytes.overwrite line.storage line.length added =
      (kept ++ added) ++ List.replicate (size - (kept ++ added).length) 0 := by
    rw [storage, length, Bytes.overwrite_behind, List.drop_replicate, List.length_append,
      Nat.sub_sub]
  have second : Bytes.overwrite (Bytes.overwrite line.storage line.length added)
      (line.length + added.length) [0] =
      (kept ++ added) ++ List.replicate (size - (kept ++ added).length) 0 := by
    have position : line.length + added.length = (kept ++ added).length := by
      rw [length, List.length_append]
    have left : size - (kept ++ added).length = (size - (kept ++ added).length - 1) + 1 := by
      rw [List.length_append]
      omega
    rw [first, position, Bytes.overwrite_behind, List.append_assoc, left]
    simp [List.replicate_succ]
  constructor
  · simp only [push, fits, fitting, List.length_append, ← length]
  · simp only [push, fits, fitting, second]

/-- Writing a message presents its pieces, up to where its formatting fails. -/
theorem write_holds (line : Line) (pieces : List Piece) (presented : Bytes)
    (holds : line.Holds presented) : (line.write pieces).Holds (presented ++ written pieces) := by
  induction pieces generalizing line presented with
  | nil => simpa [write, written] using holds
  | cons piece rest inductionHypothesis =>
    cases piece with
    | failure => simpa [write, written] using holds
    | text first =>
      have pushed := push_holds line presented (Bytes.ofText first) holds
      have continued := inductionHypothesis _ _ pushed
      simpa only [write, written, List.append_assoc] using continued

/-- A formatted line holds the pieces of its message, up to where its formatting fails. -/
theorem format_holds (pieces : List Piece) : (format pieces).Holds (written pieces) := by
  simpa only [format, List.nil_append] using write_holds empty pieces [] empty_holds

namespace Holds

variable {line : Line} {presented : Bytes}

/-- The bytes in use are the first ones presented. -/
theorem bytes (holds : line.Holds presented) : line.bytes = presented.take capacity := by
  rw [Line.bytes, holds.storage, holds.length, List.take_left]

/-- The byte behind those in use is a NUL. -/
theorem bytesWithNul (holds : line.Holds presented) :
    line.bytesWithNul = presented.take capacity ++ [0] := by
  have room : (presented.take capacity).length < size := holds.length ▸ line.length_lt
  obtain ⟨left, same⟩ : ∃ left, size - (presented.take capacity).length = left + 1 :=
    ⟨size - (presented.take capacity).length - 1, by omega⟩
  rw [Line.bytesWithNul, holds.storage, holds.length, same, List.replicate_succ,
    List.take_length_add_append]
  rfl

end Holds
end KernelLog.Line
