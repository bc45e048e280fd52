import KernelLog.Proofs.PropertyKeys
import KernelLog.Proofs.WellFormedText

/-!
# The longest key that a tag has room for

A key is a text, but its bounds are counted in bytes. It is made by taking in one character
after another, and this comes to the same as looking for the longest text that the whole
name begins with and that has no more bytes than there is room for. A character has four
bytes at most, so a key that is cut has at most three bytes of room left.

Only tags that are cut can share a key: the bytes of a key behind its fixed beginning are
the longest such beginning of the tag.
-/

namespace KernelLog

open Bytes

namespace Threshold

/-! ## Longest beginnings -/

/-- The longest text that a text begins with and that has at most so many bytes. A text begins with
another if its bytes do; as both are texts, it is not cut within a character. -/
structure IsLongestBeginning (limit : Nat) (whole part : String) : Prop where
  begins : ofText part <+: ofText whole
  within : (ofText part).length ≤ limit
  longest : ∀ other, ofText other <+: ofText whole → (ofText other).length ≤ limit →
    (ofText other).length ≤ (ofText part).length

/-- Characters in a row have the bytes of each. -/
theorem width_append (chars rest : List Char) :
    width (chars ++ rest) = width chars + width rest := by
  induction chars with
  | nil => exact (Nat.zero_add _).symm
  | cons first others inductionHypothesis =>
    rw [List.cons_append, width, width, inductionHypothesis, Nat.add_assoc]

/-- Only no characters have no bytes. -/
theorem eq_nil_of_width (chars : List Char) (none : width chars = 0) : chars = [] := by
  cases chars with
  | nil => rfl
  | cons first others =>
    have wide := first.utf8Size_pos
    rw [width] at none
    omega

/-- What fits is a beginning. -/
theorem fitting_begins (room : Nat) (chars : List Char) : fitting room chars <+: chars := by
  induction chars generalizing room with
  | nil => exact List.prefix_rfl
  | cons first others inductionHypothesis =>
    rw [fitting]
    split
    · exact List.cons_prefix_cons.mpr ⟨rfl, inductionHypothesis _⟩
    · exact List.nil_prefix

/-- What fits has the room. -/
theorem width_fitting_le (room : Nat) (chars : List Char) : width (fitting room chars) ≤ room := by
  induction chars generalizing room with
  | nil => exact Nat.zero_le room
  | cons first others inductionHypothesis =>
    rw [fitting]
    split
    · have othersFit := inductionHypothesis (room - first.utf8Size)
      rw [width]
      omega
    · exact Nat.zero_le room

/-- If not everything fits, at most three bytes of room are left: the character that did not fit has
four at most. -/
theorem fitting_full (room : Nat) (chars : List Char) (cut : room < width chars) :
    room ≤ width (fitting room chars) + 3 := by
  induction chars generalizing room with
  | nil => cases cut
  | cons first others inductionHypothesis =>
    have narrow := first.utf8Size_le_four
    rw [width] at cut
    rw [fitting]
    split
    · have othersFull := inductionHypothesis (room - first.utf8Size) (by omega)
      rw [width]
      omega
    · rw [width]
      omega

/-- Every beginning that has the room is a beginning of what fits. -/
theorem begins_fitting {room : Nat} {chars other : List Char} (begins : other <+: chars)
    (within : width other ≤ room) : other <+: fitting room chars := by
  obtain ⟨rest, rfl⟩ := begins
  rw [fitting_append_of_fits room other rest within]
  exact List.prefix_append _ _

/-- All characters fit exactly if they have the room. -/
theorem fitting_eq_self_iff (room : Nat) (chars : List Char) :
    fitting room chars = chars ↔ width chars ≤ room := by
  constructor
  · intro whole
    have within := width_fitting_le room chars
    rwa [whole] at within
  · intro within
    have fits := fitting_append_of_fits room chars [] within
    rwa [List.append_nil, fitting, List.append_nil] at fits

/-- Of each text there is one longest beginning within a limit: the characters that fit.

A beginning that is as long as what fits is a beginning of it too, and nothing can stand behind
it. -/
theorem isLongestBeginning_iff (limit : Nat) (whole part : String) :
    IsLongestBeginning limit whole part ↔ part.toList = fitting limit whole.toList := by
  have begins : ofText (String.ofList (fitting limit whole.toList)) <+: ofText whole := by
    rw [ofText_begins_iff, String.toList_ofList]
    exact fitting_begins limit whole.toList
  have within := width_fitting_le limit whole.toList
  constructor
  · intro longest
    have fits : width part.toList ≤ limit := length_ofText part ▸ longest.within
    obtain ⟨rest, split⟩ := begins_fitting ((ofText_begins_iff _ _).mp longest.begins) fits
    have long := longest.longest _ begins (by rwa [length_ofText, String.toList_ofList])
    rw [length_ofText, length_ofText, String.toList_ofList, ← split, width_append] at long
    have nothing : rest = [] := eq_nil_of_width rest (by omega)
    rw [← split, nothing, List.append_nil]
  · intro same
    obtain rfl : part = String.ofList (fitting limit whole.toList) := by
      rw [← same, String.ofList_toList]
    refine ⟨begins, by rwa [length_ofText, String.toList_ofList], fun other begun fits => ?_⟩
    rw [length_ofText] at fits
    obtain ⟨rest, split⟩ := begins_fitting ((ofText_begins_iff _ _).mp begun) fits
    rw [length_ofText, length_ofText, String.toList_ofList, ← split, width_append]
    exact Nat.le_add_right _ _

/-! ## Keys -/

/-- The characters of a key: those of the fixed beginning, and those of the tag that fit into the
rest of the room. -/
theorem toList_key (tag : String) :
    (key tag).toList = keyStart.toList ++ fitting 23 tag.toList := by
  have room : longestKey - keyStart.utf8ByteSize = 23 := by decide
  rw [key, room, String.toList_append, String.toList_ofList]

/-- They are those of the whole name that fit. -/
theorem toList_key_eq_fitting (tag : String) :
    (key tag).toList = fitting 31 (keyStart ++ tag).toList := by
  have start : width keyStart.toList = 8 := by decide
  rw [toList_key, String.toList_append, fitting_append_of_fits 31 _ _ (by omega), start]

/-- Two tags have one key exactly if they have one longest beginning within the room. -/
theorem key_eq_iff_longest {first second part other : String}
    (longest : IsLongestBeginning 23 first part)
    (otherLongest : IsLongestBeginning 23 second other) :
    key first = key second ↔ part = other := by
  rw [isLongestBeginning_iff] at longest otherLongest
  rw [key_eq_iff, ← longest, ← otherLongest, String.toList_inj]

/-- A tag is taken into its key as a whole exactly if it has no more bytes than there is room. -/
theorem key_whole_iff (tag : String) :
    key tag = keyStart ++ tag ↔ (ofText tag).length ≤ 23 := by
  rw [← String.toList_inj, toList_key, String.toList_append, List.append_cancel_left_eq,
    fitting_eq_self_iff, length_ofText]

/-- The first character that does not fit ends the key, whatever stands behind it. -/
theorem key_of_cut (taken rest : String) (next : Char) (fits : (ofText taken).length ≤ 23)
    (wide : 23 < (ofText (taken ++ String.singleton next)).length) :
    key (taken ++ String.singleton next ++ rest) = keyStart ++ taken := by
  rw [length_ofText] at fits
  rw [length_ofText, String.toList_append, String.toList_singleton, width_append, width, width]
    at wide
  have outside : ¬ next.utf8Size ≤ 23 - width taken.toList := by omega
  rw [← String.toList_inj, toList_key, String.toList_append, String.toList_append,
    String.toList_append, String.toList_singleton, List.append_assoc, List.singleton_append,
    fitting_append_of_fits 23 _ _ fits, fitting, if_neg outside, List.append_nil]

end Threshold

open Threshold

/-- The key of a tag is the longest beginning of the tag's full property name that has at most 31
bytes.

So it begins as every key does, and its bytes are a text. It is the full name if the tag has 23
bytes or less; otherwise it has 28 to 31 bytes. The first character that does not fit ends it, also
if one behind it is short enough. Two tags have one key exactly if one text is the longest beginning
of both that has at most 23 bytes; so different tags that are not cut have different keys. -/
theorem keys_are_longest_beginnings (tag : String) :
    (∀ part, IsLongestBeginning 31 (keyStart ++ tag) part ↔ part = key tag) ∧
    (ofText keyStart <+: ofText (key tag) ∧
      Text.Utf8.decode? (ofText (key tag)) = some (key tag)) ∧
    (key tag = keyStart ++ tag ↔ (ofText tag).length ≤ 23) ∧
    (23 < (ofText tag).length →
      28 ≤ (ofText (key tag)).length ∧ (ofText (key tag)).length ≤ 31) ∧
    (∀ taken next rest, tag = taken ++ String.singleton next ++ rest →
      (ofText taken).length ≤ 23 → 23 < (ofText (taken ++ String.singleton next)).length →
      key tag = keyStart ++ taken) ∧
    (∃ part, (∀ other, IsLongestBeginning 23 tag other ↔ other = part) ∧
      ∀ second other, IsLongestBeginning 23 second other →
        (key tag = key second ↔ part = other)) ∧
    ∀ second, (ofText tag).length ≤ 23 → (ofText second).length ≤ 23 → tag ≠ second →
      key tag ≠ key second := by
  have unique : ∀ part, IsLongestBeginning 31 (keyStart ++ tag) part ↔ part = key tag := by
    intro part
    rw [isLongestBeginning_iff, ← toList_key_eq_fitting, String.toList_inj]
  have longest : IsLongestBeginning 31 (keyStart ++ tag) (key tag) := (unique _).mpr rfl
  refine ⟨unique, ⟨?_, ?_⟩, key_whole_iff tag, ?_, ?_, ?_, ?_⟩
  · rw [ofText_begins_iff, toList_key]
    exact List.prefix_append _ _
  · exact (Text.Utf8.decode_iff _ _).mpr rfl
  · intro cut
    have start : width keyStart.toList = 8 := by decide
    have full := fitting_full 31 (keyStart ++ tag).toList (by
      rw [String.toList_append, width_append, start, ← length_ofText]
      omega)
    rw [← toList_key_eq_fitting, ← length_ofText] at full
    exact ⟨by omega, longest.within⟩
  · rintro taken next rest rfl fits wide
    exact key_of_cut taken rest next fits wide
  · refine ⟨String.ofList (fitting 23 tag.toList), ?_, ?_⟩
    · intro other
      rw [isLongestBeginning_iff, ← String.toList_inj, String.toList_ofList]
    · intro second other otherLongest
      have own : IsLongestBeginning 23 tag (String.ofList (fitting 23 tag.toList)) := by
        rw [isLongestBeginning_iff, String.toList_ofList]
      exact key_eq_iff_longest own otherLongest
  · intro second whole otherWhole different same
    rw [(key_whole_iff tag).mpr whole, (key_whole_iff second).mpr otherWhole] at same
    exact different (String.append_right_inj _ |>.mp same)

/-- Behind 22 letters there is no room for a character of three bytes, and the letter behind it,
which there is room for, is not taken in. So the key has 30 bytes, and the tag shares it with the 22
letters alone. -/
theorem wide_character_ends_the_key :
    let letters := "abcdefghijklmnopqrstuv"
    let tag := letters ++ String.singleton '€' ++ "x"
    (23 < (ofText tag).length ∧ (ofText letters).length ≤ 23 ∧
      23 < (ofText (letters ++ String.singleton '€')).length ∧
      IsLongestBeginning 23 letters letters) ∧
    key tag = "log.tag.abcdefghijklmnopqrstuv" ∧
    28 ≤ (ofText (key tag)).length ∧
    key tag = key letters := by
  intro letters tag
  have cut : 23 < (ofText tag).length := by decide
  have fits : (ofText letters).length ≤ 23 := by decide
  have wide : 23 < (ofText (letters ++ String.singleton '€')).length := by decide
  have alone : IsLongestBeginning 23 letters letters := by
    rw [isLongestBeginning_iff]
    decide
  have own : IsLongestBeginning 23 tag letters := by
    rw [isLongestBeginning_iff]
    decide
  obtain ⟨_, _, _, long, ends, ⟨part, only, shared⟩, _⟩ := keys_are_longest_beginnings tag
  obtain rfl : letters = part := (only letters).mp own
  refine ⟨⟨cut, fits, wide, alone⟩, ?_, (long cut).1, (shared letters letters alone).mpr rfl⟩
  rw [ends letters '€' "x" rfl fits wide]
  decide

end KernelLog
