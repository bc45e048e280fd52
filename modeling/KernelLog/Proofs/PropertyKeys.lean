import KernelLog.Proofs.Thresholds
import Mathlib.Tactic.ByContra

/-!
# The property of a tag

The property that sets the threshold of a tag is found under a key, which has room for 23
bytes of the tag. The tag is taken in character by character, and the first one that does
not fit ends the key. So what follows in a tag counts as long as there is room, and no
longer: that is the one law here, in the two forms that its induction has.

A tag has no other part in its threshold than through its key. Two tags are judged alike
by all configurations exactly if they have one key.
-/

namespace KernelLog

open Bytes

/-! ## Characters that fit -/

namespace Threshold

/-- The number of bytes of some characters. -/
def width : List Char → Nat
  | [] => 0
  | first :: rest => first.utf8Size + width rest

/-- The bytes of a text are as many as those of its characters. -/
theorem length_ofText (text : String) : (ofText text).length = width text.toList := by
  rw [ofText]
  induction text.toList with
  | nil => rfl
  | cons first rest inductionHypothesis =>
    rw [List.flatMap_cons, List.length_append, String.length_utf8EncodeChar,
      inductionHypothesis, width]

/-- Characters that fit are taken in, and what follows them has the room that they leave. -/
theorem fitting_append_of_fits (room : Nat) (chars rest : List Char) (fits : width chars ≤ room) :
    fitting room (chars ++ rest) = chars ++ fitting (room - width chars) rest := by
  induction chars generalizing room with
  | nil => rfl
  | cons first others inductionHypothesis =>
    rw [width] at fits
    have firstFits : first.utf8Size ≤ room := by omega
    have othersFit : width others ≤ room - first.utf8Size := by omega
    rw [List.cons_append, fitting, if_pos firstFits, inductionHypothesis _ othersFit, width,
      Nat.sub_add_eq, List.cons_append]

/-- Characters that fill the room leave none for what follows them.

A character has at least one byte, so nothing is taken in without room. -/
theorem fitting_append_of_full (room : Nat) (chars rest : List Char) (full : room ≤ width chars) :
    fitting room (chars ++ rest) = fitting room chars := by
  induction chars generalizing room with
  | nil =>
    obtain rfl : room = 0 := Nat.le_zero.mp full
    cases rest with
    | nil => rfl
    | cons next _ =>
      have wide : ¬ next.utf8Size ≤ 0 := Nat.not_le.mpr next.utf8Size_pos
      exact if_neg wide
  | cons first others inductionHypothesis =>
    rw [width] at full
    have othersFill : room - first.utf8Size ≤ width others := by omega
    rw [List.cons_append, fitting, fitting, inductionHypothesis _ othersFill]

/-- A character of one byte, and whatever follows it, counts exactly if there is room left. -/
theorem fitting_append_eq_iff (room : Nat) (chars rest : List Char) (next : Char)
    (narrow : next.utf8Size = 1) :
    fitting room (chars ++ next :: rest) = fitting room chars ↔ room ≤ width chars := by
  constructor
  · intro same
    by_contra roomy
    -- With room left the character is taken in, and the two results differ in length.
    have fits : width chars ≤ room := by omega
    have nextFits : next.utf8Size ≤ room - width chars := by omega
    have alone := fitting_append_of_fits room chars [] fits
    rw [List.append_nil, fitting, List.append_nil] at alone
    rw [fitting_append_of_fits room chars _ fits, alone, fitting, if_pos nextFits] at same
    simp at same
  · exact fitting_append_of_full room chars _

example : fitting 4 ['a', 'é', '€', 'b'] = ['a', 'é'] := by decide

/-! ## Keys -/

/-- Two tags have one key if the same characters of them fit. -/
theorem key_eq_iff (first second : String) :
    key first = key second ↔ fitting 23 first.toList = fitting 23 second.toList := by
  have room : longestKey - keyStart.utf8ByteSize = 23 := by decide
  rw [key, key, room]
  constructor
  · intro same
    have chars := congrArg String.toList same
    rw [String.toList_append, String.toList_append, List.append_cancel_left_eq,
      String.toList_ofList, String.toList_ofList] at chars
    exact chars
  · intro same
    rw [same]

/-- Two tags are judged alike by all configurations exactly if they have one key.

If they have two, a configuration may silence the one and open the other. -/
theorem judged_alike_iff (first second : String) :
    (∀ (config : Config) priority,
      config.isLoggable priority (some first) = config.isLoggable priority (some second)) ↔
      key first = key second := by
  constructor
  · intro alike
    by_contra different
    -- Different keys are different properties, so one configuration may say both.
    let config : Config := { properties := [(key first, "S"), (key second, "V")] }
    have silencedBy : config.properties.lookup (key first) = some "S" := List.lookup_cons_self
    have openedBy : config.properties.lookup (key second) = some "V" := by
      have apart : (key second == key first) = false := beq_false_of_ne (Ne.symm different)
      rw [List.lookup_cons, apart]
      exact List.lookup_cons_self
    have silenced : IsThreshold config (some first) .silent :=
      .named (.own ⟨first, rfl, silencedBy, by decide⟩) ⟨'S', [], by decide, by decide⟩
    have opened : IsThreshold config (some second) .verbose :=
      .named (.own ⟨second, rfl, openedBy, by decide⟩) ⟨'V', [], by decide, by decide⟩
    rw [isThreshold_iff] at silenced opened
    have contrary := alike config .fatal
    rw [Config.isLoggable, Config.isLoggable, isLoggable, isLoggable, ← silenced, ← opened]
      at contrary
    exact absurd contrary (by decide)
  · intro same config priority
    simp only [Config.isLoggable, isLoggable, threshold_eq, governing?, Option.bind_some, same]

end Threshold
end KernelLog
