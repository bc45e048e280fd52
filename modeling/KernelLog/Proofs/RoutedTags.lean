import KernelLog.Proofs.NulTermination
import KernelLog.Routing
import Mathlib.Tactic.ByContra

/-!
# Where a tag leads

The rules compare tags with twenty patterns, some as a whole and some as a beginning.
No pattern begins as rewritten tags do, and they do not begin with a pattern. So no
rule matches a rewritten tag, and a record that was routed stays where it is.

Whether a record was moved is not kept with its route but read off its tag. That is
right of all tags but those of callers who begin theirs as rewritten tags begin.
-/

namespace KernelLog

open Bytes Routing

/-! ## Telephony tags -/

/-- Whether a tag is a telephony tag hangs on its visible part alone. -/
theorem radio_tag_cut (rules : RuleSet) (tag : Bytes) :
    isRadioTag rules (cutAtNul tag) = isRadioTag rules tag := by
  simp only [isRadioTag, cut_idempotent]

/-- The NUL behind a tag has no part in what the tag is. -/
theorem radio_tag_terminated (rules : RuleSet) (tag : Bytes) :
    isRadioTag rules (nulTerminated tag) = isRadioTag rules tag := by
  rw [terminated_eq, ← radio_tag_cut, cut_append_nul, cut_idempotent, radio_tag_cut]

/-- Without a named channel, the tags count that count with one, and a few more. -/
theorem radio_tag_default_iff (tag : Bytes) :
    isRadioTag .defaultChannel tag = true ↔
      isRadioTag .explicitChannel tag = true ∨ cutAtNul tag ∈ defaultOnlyTags := by
  simp only [isRadioTag, Bool.or_eq_true, Bool.and_eq_true, List.contains_iff_mem, beq_self_eq_true,
    true_and, reduceCtorEq, beq_iff_eq, false_and, or_false]

/-- Whatever rules find a tag ordinary, those for a named channel do. -/
theorem ordinary_when_named (rules : RuleSet) (tag : Bytes)
    (ordinary : isRadioTag rules tag = false) : isRadioTag .explicitChannel tag = false := by
  cases rules with
  | explicitChannel => exact ordinary
  | defaultChannel =>
    rw [← Bool.not_eq_true, radio_tag_default_iff, not_or] at ordinary
    exact Bool.not_eq_true _ ▸ ordinary.1

/-- What the rules compare tags with, as a whole or as a beginning. -/
def Routing.patterns : List Bytes := radioTags ++ radioBeginnings ++ defaultOnlyTags

/-- A telephony tag begins with a pattern, whatever rules it counts under. -/
theorem pattern_of_radio_tag (rules : RuleSet) (tag : Bytes)
    (matched : isRadioTag rules tag = true) : ∃ pattern ∈ patterns, pattern <+: cutAtNul tag := by
  simp only [isRadioTag, Bool.or_eq_true, Bool.and_eq_true, List.contains_iff_mem,
    List.any_eq_true, List.isPrefixOf_iff_prefix] at matched
  obtain (whole | ⟨beginning, member, begins⟩) | ⟨_, whole⟩ := matched
  · exact ⟨_, List.mem_append_left _ (List.mem_append_left _ whole), List.prefix_refl _⟩
  · exact ⟨beginning, List.mem_append_left _ (List.mem_append_right _ member), begins⟩
  · exact ⟨_, List.mem_append_right _ whole, List.prefix_refl _⟩

/-- No pattern begins as rewritten tags do, and their beginning does not begin with a pattern. -/
theorem patterns_apart : ∀ pattern ∈ patterns,
    ¬ pattern <+: rewrittenBeginning ∧ ¬ rewrittenBeginning <+: pattern := by
  decide

/-- A tag that begins as rewritten tags do is none of telephony's. A pattern that it began with,
too, would be a beginning of theirs, or theirs one of the pattern. -/
theorem ordinary_of_beginning (rules : RuleSet) (tag : Bytes)
    (begins : rewrittenBeginning <+: cutAtNul tag) : isRadioTag rules tag = false := by
  by_contra matched
  rw [Bool.not_eq_false] at matched
  obtain ⟨pattern, member, other⟩ := pattern_of_radio_tag rules tag matched
  have apart := patterns_apart pattern member
  obtain shorter | longer := List.prefix_or_prefix_of_prefix other begins
  · exact apart.1 shorter
  · exact apart.2 longer

/-! ## Rewritten tags -/

/-- A rewritten tag holds no NUL before its terminator. -/
theorem rewritten_free (tag : Bytes) : 0 ∉ (rewrittenBeginning ++ cutAtNul tag).take 31 := by
  intro member
  obtain fixed | visible := List.mem_append.mp (List.mem_of_mem_take member)
  · exact absurd fixed (by decide)
  · exact nul_not_mem_cut tag visible

/-- A rewritten tag begins as all rewritten tags do. -/
theorem beginning_of_rewritten (tag : Bytes) :
    rewrittenBeginning <+: (rewrittenBeginning ++ cutAtNul tag).take 31 := by
  have short : rewrittenBeginning.length ≤ 31 := by decide
  exact List.prefix_take_iff.mpr ⟨List.prefix_append _ _, short⟩

/-- What is visible of a rewritten tag is all of it but the terminator. -/
theorem cut_rewriteTag (tag : Bytes) :
    cutAtNul (rewriteTag tag) = (rewrittenBeginning ++ cutAtNul tag).take 31 := by
  rw [rewriteTag, cut_append_nul]
  exact cut_of_free _ (rewritten_free tag)

/-- A rewritten tag is ended in a NUL already. -/
theorem terminated_rewriteTag (tag : Bytes) : nulTerminated (rewriteTag tag) = rewriteTag tag := by
  rw [terminated_eq, cut_rewriteTag]
  rfl

/-- No rule matches a rewritten tag. -/
theorem ordinary_rewriteTag (rules : RuleSet) (tag : Bytes) :
    isRadioTag rules (rewriteTag tag) = false := by
  refine ordinary_of_beginning rules _ ?_
  rw [cut_rewriteTag]
  exact beginning_of_rewritten tag

/-! ## Routes -/

namespace Route

variable (rules : RuleSet) (channel : Channel) (tag : Bytes)

/-- Whether a record is moved: it is not for radio anyway, and its tag is one of telephony's. -/
def Moves : Prop := channel ≠ .radio ∧ isRadioTag rules tag = true

variable {rules channel tag}

/-- A record that is moved goes to radio under a rewritten tag. -/
theorem choose_of_moves (moves : Moves rules channel tag) :
    choose rules channel tag = { channel := .radio, tag := rewriteTag tag } :=
  if_pos moves

/-- A record that is not moved goes where it is for, under its own tag. -/
theorem choose_of_stays (stays : ¬ Moves rules channel tag) :
    choose rules channel tag = { channel := channel, tag := nulTerminated tag } :=
  if_neg stays

/-- A record stays where it is if its tag is an ordinary one. -/
theorem stays_of_ordinary (ordinary : isRadioTag rules tag = false) :
    ¬ Moves rules channel tag := by
  intro moves
  rw [moves.2] at ordinary
  cases ordinary

/-- A route that was chosen by any rules is chosen again by those for a named channel.

A record that was moved is for radio now, which no record leaves. One that was not is for radio,
too, or its tag is ordinary; so it is for a named channel, and the terminator does not change that.
-/
theorem explicit_choose (rules : RuleSet) (channel : Channel) (tag : Bytes) :
    explicit (choose rules channel tag).channel (choose rules channel tag).tag =
      choose rules channel tag := by
  by_cases moves : Moves rules channel tag
  · rw [choose_of_moves moves]
    have stays : ¬ Moves .explicitChannel .radio (rewriteTag tag) := fun again => again.1 rfl
    rw [explicit, choose_of_stays stays, terminated_rewriteTag]
  · rw [choose_of_stays moves]
    have stays : ¬ Moves .explicitChannel channel (nulTerminated tag) := by
      rintro ⟨elsewhere, matched⟩
      have ordinary : isRadioTag rules tag = false :=
        Bool.eq_false_iff.mpr fun matched => moves ⟨elsewhere, matched⟩
      rw [radio_tag_terminated, ordinary_when_named rules tag ordinary] at matched
      cases matched
    rw [explicit, choose_of_stays stays, terminated_idempotent]

/-- The flag of a route is set for the records that were moved, and for those whose tag begins as
rewritten tags do. -/
theorem rerouted_choose_iff (rules : RuleSet) (channel : Channel) (tag : Bytes) :
    (choose rules channel tag).rerouted = true ↔
      Moves rules channel tag ∨ rewrittenBeginning <+: cutAtNul tag := by
  by_cases moves : Moves rules channel tag
  · have begins : rewrittenBeginning <+: rewriteTag tag :=
      (beginning_of_rewritten tag).trans (List.prefix_append _ _)
    simp only [choose_of_moves moves, rerouted, List.isPrefixOf_iff_prefix, begins, moves, true_or]
  · -- The NUL behind the tag cannot complete the beginning, which holds none.
    have free : rewrittenBeginning ≠ cutAtNul tag ++ [0] := by
      intro same
      have member : 0 ∈ rewrittenBeginning := by
        rw [same]
        exact List.mem_append_right _ (List.mem_singleton_self 0)
      exact absurd member (by decide)
    simp only [choose_of_stays moves, rerouted, List.isPrefixOf_iff_prefix, terminated_eq,
      List.prefix_concat_iff, free, moves, false_or]

/-- The flag tells whether a record was moved, unless its tag begins as rewritten tags do; it is set
then, although no such record is moved. -/
theorem rerouted_choose_right_iff (rules : RuleSet) (channel : Channel) (tag : Bytes) :
    let flag := (choose rules channel tag).rerouted
    let moved := Moves rules channel tag
    let imitates := rewrittenBeginning <+: cutAtNul tag
    ((flag = true ↔ moved) ↔ ¬ imitates) ∧ (imitates → flag = true ∧ ¬ moved) := by
  intro flag moved imitates
  have set : flag = true ↔ moved ∨ imitates := rerouted_choose_iff rules channel tag
  have apart : imitates → flag = true ∧ ¬ moved := by
    intro begins
    exact ⟨set.mpr (.inr begins), stays_of_ordinary (ordinary_of_beginning rules tag begins)⟩
  refine ⟨⟨fun right begins => ?_, fun plain => ?_⟩, apart⟩
  · exact (apart begins).2 (right.mp (apart begins).1)
  · rw [set]
    exact or_iff_left plain

/-- A tag that is routed time and again, each time by the rules and for the channel given. -/
def relayed (tag : Bytes) : List (RuleSet × Channel) → Bytes
  | [] => tag
  | (rules, channel) :: rest => relayed (choose rules channel tag).tag rest

/-- A rewritten tag stays as it is, however often it is routed. -/
theorem relayed_rewriteTag (tag : Bytes) (hops : List (RuleSet × Channel)) :
    relayed (rewriteTag tag) hops = rewriteTag tag := by
  induction hops with
  | nil => rfl
  | cons hop rest inductionHypothesis =>
    have stays : ¬ Moves hop.1 hop.2 (rewriteTag tag) :=
      stays_of_ordinary (ordinary_rewriteTag hop.1 tag)
    rw [relayed, choose_of_stays stays, terminated_rewriteTag, inductionHypothesis]

/-- A tag that ends in its NUL stays as it is until it is rewritten, and is rewritten as the tag
would have been before. -/
theorem relayed_terminated (tag : Bytes) (hops : List (RuleSet × Channel)) :
    relayed (nulTerminated tag) hops = nulTerminated tag ∨
      relayed (nulTerminated tag) hops = rewriteTag tag := by
  induction hops with
  | nil => exact .inl rfl
  | cons hop rest inductionHypothesis =>
    by_cases moves : Moves hop.1 hop.2 (nulTerminated tag)
    · have same : rewriteTag (nulTerminated tag) = rewriteTag tag := by
        rw [rewriteTag, rewriteTag, terminated_eq, cut_append_nul, cut_idempotent]
      rw [relayed, choose_of_moves moves, same, relayed_rewriteTag]
      exact .inr rfl
    · rw [relayed, choose_of_stays moves, terminated_idempotent]
      exact inductionHypothesis

/-- However often a tag is routed, it is rewritten once at most. -/
theorem relayed_once (tag : Bytes) (first : RuleSet × Channel) (rest : List (RuleSet × Channel)) :
    relayed tag (first :: rest) = nulTerminated tag ∨
      relayed tag (first :: rest) = rewriteTag tag := by
  by_cases moves : Moves first.1 first.2 tag
  · rw [relayed, choose_of_moves moves, relayed_rewriteTag]
    exact .inr rfl
  · rw [relayed, choose_of_stays moves]
    exact relayed_terminated tag rest

end Route

/-! ## What routes keep, and what they tell -/

/-- A record that was routed is never routed elsewhere.

For the channel and with the tag that routing led to, whether or not a channel was named, the route
of a caller who names that channel is the same. A rewritten tag is no telephony tag under either
rules, so it is sent as it is wherever it is for; and a tag that passes through any number of
routings, by whatever rules and for whatever channels, is rewritten once at most. -/
theorem routed_records_stay (tag : Bytes) :
    (∀ route, (route = Route.byDefault tag ∨ ∃ channel, route = Route.explicit channel tag) →
      Route.explicit route.channel route.tag = route) ∧
    (∀ rules, isRadioTag rules (rewriteTag tag) = false ∧
      ∀ channel, Route.choose rules channel (rewriteTag tag) =
        { channel := channel, tag := rewriteTag tag }) ∧
    ∀ first rest, Route.relayed tag (first :: rest) = nulTerminated tag ∨
      Route.relayed tag (first :: rest) = rewriteTag tag := by
  refine ⟨?_, fun rules => ?_, Route.relayed_once tag⟩
  · rintro route (rfl | ⟨channel, rfl⟩)
    · exact Route.explicit_choose .defaultChannel .main tag
    · exact Route.explicit_choose .explicitChannel channel tag
  · have ordinary : isRadioTag rules (rewriteTag tag) = false := ordinary_rewriteTag rules tag
    refine ⟨ordinary, fun channel => ?_⟩
    rw [Route.choose_of_stays (Route.stays_of_ordinary ordinary), terminated_rewriteTag]

/-- The flag of a route tells whether the record was moved, of all tags but those that begin as
rewritten ones do. For these the flag is set, although no such record is moved, be it for radio or
for another channel. -/
theorem flag_is_right_unless_imitated (tag : Bytes) :
    let imitates := rewrittenBeginning <+: cutAtNul tag
    (∀ channel,
      let flag := (Route.explicit channel tag).rerouted
      let moved := channel ≠ .radio ∧ isRadioTag .explicitChannel tag = true
      ((flag = true ↔ moved) ↔ ¬ imitates) ∧ (imitates → flag = true ∧ ¬ moved)) ∧
    let flag := (Route.byDefault tag).rerouted
    let moved := isRadioTag .defaultChannel tag = true
    ((flag = true ↔ moved) ↔ ¬ imitates) ∧ (imitates → flag = true ∧ ¬ moved) := by
  refine ⟨fun channel => Route.rerouted_choose_right_iff .explicitChannel channel tag, ?_⟩
  have moves : Route.Moves .defaultChannel .main tag ↔ isRadioTag .defaultChannel tag = true :=
    and_iff_right (by decide)
  have right := Route.rerouted_choose_right_iff .defaultChannel .main tag
  rw [moves] at right
  exact right

/-- A caller names radio, and gives a tag that begins as rewritten tags do. The tag goes out as it
is, and the flag is set. -/
theorem imitated_flag_is_wrong :
    let tag := Bytes.ofText "use-Rlog/RLOG-x"
    Route.explicit .radio tag = { channel := .radio, tag := tag ++ [0] } ∧
    (Route.explicit .radio tag).rerouted = true ∧
    ¬ ((∀ channel tag, (Route.explicit channel tag).rerouted = true ↔
          channel ≠ .radio ∧ isRadioTag .explicitChannel tag = true) ∧
        ∀ tag, (Route.byDefault tag).rerouted = true ↔ isRadioTag .defaultChannel tag = true) := by
  intro tag
  have flagged : (Route.explicit .radio tag).rerouted = true := by decide
  refine ⟨by decide, flagged, fun truthful => ?_⟩
  exact ((truthful.1 .radio tag).mp flagged).1 rfl

end KernelLog
