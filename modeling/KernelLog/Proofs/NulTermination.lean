import KernelLog.Bytes
import Mathlib.Data.List.TakeWhile

/-!
# Cutting and ending byte strings at a NUL

Tags and messages are cut at their first NUL where they are judged, and ended in
a NUL where they are transmitted. The two scans are written apart and agree: the
terminated form is the cut form with one NUL behind it, which is the only one.
Cutting what is cut already changes nothing, and neither does a NUL behind it.
-/

namespace KernelLog.Bytes

/-- The part of a byte string before its first NUL holds none. -/
theorem nul_not_mem_cut (bytes : Bytes) : 0 ∉ cutAtNul bytes := by
  intro member
  have kept := List.mem_takeWhile_imp member
  exact absurd rfl (bne_iff_ne.mp kept)

/-- A byte string without a NUL is its own part before the first one. -/
theorem cut_of_free (bytes : Bytes) (free : 0 ∉ bytes) : cutAtNul bytes = bytes := by
  refine List.takeWhile_eq_self_iff.mpr fun byte member => ?_
  exact bne_iff_ne.mpr fun same => free (same ▸ member)

/-- Cutting a second time changes nothing. -/
theorem cut_idempotent (bytes : Bytes) : cutAtNul (cutAtNul bytes) = cutAtNul bytes :=
  cut_of_free _ (nul_not_mem_cut bytes)

/-- Nothing of what stands behind a NUL is left when a byte string is cut at its first one. -/
theorem cut_behind_nul (bytes rest : Bytes) : cutAtNul (bytes ++ 0 :: rest) = cutAtNul bytes := by
  induction bytes with
  | nil => rfl
  | cons byte tail inductionHypothesis =>
    simp only [cutAtNul, List.cons_append, List.takeWhile_cons] at inductionHypothesis ⊢
    rw [inductionHypothesis]

/-- A NUL behind a byte string is no part of what is cut off before the first one. -/
theorem cut_append_nul (bytes : Bytes) : cutAtNul (bytes ++ [0]) = cutAtNul bytes :=
  cut_behind_nul bytes []

/-- It does not matter whether a byte string is cut at its first NUL before or after it is cut to a
number of bytes. -/
theorem cut_take (bytes : Bytes) (count : Nat) :
    cutAtNul (bytes.take count) = (cutAtNul bytes).take count := by
  induction bytes generalizing count with
  | nil => simp [cutAtNul]
  | cons byte rest inductionHypothesis =>
    cases count with
    | zero => rfl
    | succ count =>
      simp only [cutAtNul, List.take_succ_cons, List.takeWhile_cons] at inductionHypothesis ⊢
      split
      · rw [inductionHypothesis, List.take_succ_cons]
      · rfl

/-- The terminated form is the cut form and one NUL.

Both scans walk over the same bytes. At a NUL the one stops before it and the other behind it; at
the end of the string the one keeps everything and the other adds the NUL that is missing. -/
theorem terminated_eq (bytes : Bytes) : nulTerminated bytes = cutAtNul bytes ++ [0] := by
  induction bytes with
  | nil => rfl
  | cons byte rest inductionHypothesis =>
    by_cases ended : byte = 0
    · simp [nulTerminated, terminate, cutAtNul, List.findIdx?_cons, ended]
    · simp only [nulTerminated, terminate, cutAtNul] at inductionHypothesis
      cases found : rest.findIdx? (· == 0) <;> rw [found] at inductionHypothesis
      · simpa [nulTerminated, terminate, cutAtNul, List.findIdx?_cons, ended, found]
          using inductionHypothesis
      · simpa [nulTerminated, terminate, cutAtNul, List.findIdx?_cons, ended, found]
          using inductionHypothesis

/-- Ending a byte string in a NUL a second time changes nothing. -/
theorem terminated_idempotent (bytes : Bytes) :
    nulTerminated (nulTerminated bytes) = nulTerminated bytes := by
  rw [terminated_eq, terminated_eq, cut_append_nul, cut_idempotent]

end KernelLog.Bytes
