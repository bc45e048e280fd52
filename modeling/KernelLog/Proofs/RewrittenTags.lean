import KernelLog.Proofs.RoutedTags
import Mathlib.Data.List.TakeDrop

/-!
# What a rewritten tag keeps

A rewritten tag has room for 17 bytes of the tag it was made from. That is more than any
rule looks at: a rule that asks for a whole tag asks for a shorter one, and no rule asks
for a longer beginning. So what is left of a tag counts as telephony whenever the tag
did, and only the tail is lost.

Two tags have one rewritten form exactly when they begin with the same 17 bytes.
-/

namespace KernelLog

open Bytes Routing

/-! ## Tags that are cut short -/

/-- A number of bytes that is enough to judge a tag by: a tag that counts as a whole is shorter than
that, and a beginning is no longer. -/
structure Routing.EnoughToJudge (count : Nat) : Prop where
  wholes : ∀ whole ∈ radioTags ++ defaultOnlyTags, whole.length < count
  beginnings : ∀ beginning ∈ radioBeginnings, beginning.length ≤ count

/-- A byte string that was cut to some bytes is a shorter one only if nothing was cut off. -/
theorem Bytes.take_eq_shorter_iff (bytes short : Bytes) (count : Nat)
    (shorter : short.length < count) : bytes.take count = short ↔ bytes = short := by
  constructor
  · intro same
    have length : min count bytes.length = short.length := by rw [← same, List.length_take]
    have all : bytes.length ≤ count := by omega
    rwa [List.take_of_length_le all] at same
  · rintro rfl
    exact List.take_of_length_le shorter.le

/-- A byte string that was cut to some bytes is among shorter ones only if nothing was cut off. -/
theorem Bytes.take_mem_shorter_iff (bytes : Bytes) (wholes : List Bytes) (count : Nat)
    (shorter : ∀ whole ∈ wholes, whole.length < count) :
    bytes.take count ∈ wholes ↔ bytes ∈ wholes := by
  constructor
  · intro member
    have same := (take_eq_shorter_iff bytes _ count (shorter _ member)).mp rfl
    exact same ▸ member
  · intro member
    rw [List.take_of_length_le (shorter bytes member).le]
    exact member

/-- A tag may be cut to enough bytes without a change in what it is. -/
theorem radio_tag_take (rules : RuleSet) (tag : Bytes) {count : Nat}
    (enough : EnoughToJudge count) :
    isRadioTag rules (tag.take count) = isRadioTag rules tag := by
  have both := List.forall_mem_append.mp enough.wholes
  have radio := take_mem_shorter_iff (cutAtNul tag) radioTags count both.1
  have defaultOnly := take_mem_shorter_iff (cutAtNul tag) defaultOnlyTags count both.2
  have begins : ∀ beginning ∈ radioBeginnings,
      beginning <+: (cutAtNul tag).take count ↔ beginning <+: cutAtNul tag := by
    intro beginning member
    rw [List.prefix_take_iff]
    exact and_iff_left (enough.beginnings beginning member)
  rw [Bool.eq_iff_iff]
  simp only [isRadioTag, cut_take, Bool.or_eq_true, Bool.and_eq_true, List.contains_iff_mem,
    List.any_eq_true, List.isPrefixOf_iff_prefix, radio, defaultOnly]
  rw [exists_congr fun beginning => and_congr_right (begins beginning)]

/-- Seventeen bytes are enough to judge a tag by. -/
theorem seventeen_are_enough : EnoughToJudge 17 where
  wholes := by decide
  beginnings := by decide

/-! ## Rewritten tags -/

/-- What a rewritten tag shows of the tag it was made from: what stands between the beginning of all
rewritten tags and the terminator. -/
def Routing.remainder (rewritten : Bytes) : Bytes :=
  (rewritten.drop rewrittenBeginning.length).dropLast

/-- A rewritten tag has room for 17 bytes behind its beginning. -/
theorem rewriteTag_eq (tag : Bytes) :
    rewriteTag tag = rewrittenBeginning ++ (cutAtNul tag).take 17 ++ [0] := by
  have length : rewrittenBeginning.length = 14 := by decide
  have whole : rewrittenBeginning.take 31 = rewrittenBeginning :=
    List.take_of_length_le (by omega)
  rw [rewriteTag, longestRewritten, List.take_append, whole, length]

/-- These 17 bytes are what it shows. -/
theorem remainder_rewriteTag (tag : Bytes) :
    remainder (rewriteTag tag) = (cutAtNul tag).take 17 := by
  rw [remainder, rewriteTag_eq, List.append_assoc, List.drop_left, List.dropLast_concat]

/-- Tags that begin with the same 17 bytes are rewritten alike, and no others are. -/
theorem rewriteTag_eq_iff (first second : Bytes) :
    rewriteTag first = rewriteTag second ↔
      (cutAtNul first).take 17 = (cutAtNul second).take 17 := by
  constructor
  · intro same
    rw [← remainder_rewriteTag, same, remainder_rewriteTag]
  · intro same
    rw [rewriteTag_eq, rewriteTag_eq, same]

/-- The only NUL of a rewritten tag is its terminator. -/
theorem count_rewriteTag (tag : Bytes) : (rewriteTag tag).count 0 = 1 := by
  have free : ((rewrittenBeginning ++ cutAtNul tag).take 31).count 0 = 0 :=
    List.count_eq_zero.mpr (rewritten_free tag)
  rw [rewriteTag, longestRewritten, List.count_append, free]
  rfl

/-- A rewritten tag is what it was before, less its tail.

It is the fixed beginning, the first 17 bytes of the tag's visible part, and the only NUL, which
makes 32 bytes at most. Without the beginning and the NUL it is a telephony tag under either rules
if and only if the tag was. Tags are rewritten alike if and only if the first 17 bytes of their
visible parts are the same; so different tags of 17 bytes at most, none of them a NUL, stay
different. -/
theorem rewritten_tags_lose_their_tail_only (tag : Bytes) :
    let visible := cutAtNul tag
    let rewritten := rewriteTag tag
    (rewritten = ofText "use-Rlog/RLOG-" ++ visible.take 17 ++ [0] ∧ rewritten.count 0 = 1 ∧
      rewritten.length ≤ 32) ∧
    (∀ rules, isRadioTag rules (remainder rewritten) = isRadioTag rules tag) ∧
    (∀ other, rewriteTag other = rewritten ↔ (cutAtNul other).take 17 = visible.take 17) ∧
    (0 ∉ tag → tag.length ≤ 17 → ∀ other, 0 ∉ other → other.length ≤ 17 → other ≠ tag →
      rewriteTag other ≠ rewritten) := by
  intro visible rewritten
  have shape : rewritten = ofText "use-Rlog/RLOG-" ++ visible.take 17 ++ [0] := rewriteTag_eq tag
  have alike : ∀ other, rewriteTag other = rewritten ↔
      (cutAtNul other).take 17 = visible.take 17 :=
    fun other => rewriteTag_eq_iff other tag
  refine ⟨⟨shape, count_rewriteTag tag, ?_⟩, fun rules => ?_, alike, ?_⟩
  · have length : (ofText "use-Rlog/RLOG-").length = 14 := by decide
    rw [shape, List.length_append, List.length_append, List.length_take, List.length_singleton,
      length]
    omega
  · rw [remainder_rewriteTag, radio_tag_take rules (cutAtNul tag) seventeen_are_enough,
      radio_tag_cut]
  · intro free short other otherFree otherShort different same
    have whole : visible.take 17 = tag := by
      rw [show visible = tag from cut_of_free tag free, List.take_of_length_le short]
    have otherWhole : (cutAtNul other).take 17 = other := by
      rw [cut_of_free other otherFree, List.take_of_length_le otherShort]
    rw [alike, whole, otherWhole] at same
    exact different same

/-- Two tags of 17 bytes that differ at their end stay apart. With three bytes more in front they
are rewritten alike, and what is left of them counts as telephony still. -/
theorem seventeen_bytes_stay_apart :
    let first := ofText "RIL-component-one"
    let second := ofText "RIL-component-two"
    let longerFirst := ofText "QC-RIL-component-one"
    let longerSecond := ofText "QC-RIL-component-two"
    (0 ∉ first ∧ first.length ≤ 17 ∧ 0 ∉ second ∧ second.length ≤ 17 ∧ second ≠ first) ∧
    rewriteTag second ≠ rewriteTag first ∧
    rewriteTag longerSecond = rewriteTag longerFirst ∧
    isRadioTag .explicitChannel (remainder (rewriteTag longerFirst)) = true := by
  intro first second longerFirst longerSecond
  obtain ⟨_, _, _, apart⟩ := rewritten_tags_lose_their_tail_only first
  obtain ⟨_, kept, alike, _⟩ := rewritten_tags_lose_their_tail_only longerFirst
  refine ⟨by decide, ?_, ?_, ?_⟩
  · exact apart (by decide) (by decide) second (by decide) (by decide) (by decide)
  · exact (alike longerSecond).mpr (by decide)
  · rw [kept]
    decide

end KernelLog
