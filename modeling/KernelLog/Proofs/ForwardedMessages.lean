import KernelLog.Proofs.BridgedReports
import KernelLog.Proofs.PrintedTexts

/-!
# Forwarding is printing

A message that a bridge is enabled for becomes the record that a print would have
written: on the channel of the bridge, with the priority of its level, and under a tag
that the target gives. Whoever hands the message over, the world is then as the print
would have left it, and what became of the record is told to nobody.

The root of a target is what stands before its first double colon, and a target is the
library's own if its root is the library's name. The two are found by separate walks
over the target, and they agree on every target.
-/

namespace KernelLog

open Bytes World

/-! ## Roots of targets -/

namespace Message

/-- The root of a target stands before its first double colon, and is all of the target if there is
none. -/
structure IsRootOf (root target : List Char) : Prop where
  /-- The target ends with its root, or goes on with a double colon. -/
  ends : root = target ∨ root ++ [':', ':'] <+: target
  /-- No double colon begins earlier. -/
  first : ∀ shorter, shorter ++ [':', ':'] <+: target → root.length ≤ shorter.length

/-- What is all of a target, or is followed by a double colon in it, stands at its beginning. -/
theorem begins_of_ends {root target : List Char}
    (ends : root = target ∨ root ++ [':', ':'] <+: target) : root <+: target := by
  obtain rfl | parted := ends
  · exact List.prefix_refl _
  · exact (List.prefix_append _ _).trans parted

namespace IsRootOf

variable {root other target : List Char}

/-- No root of a target is longer than another. -/
theorem length_le (is : IsRootOf root target) (also : IsRootOf other target) :
    root.length ≤ other.length := by
  obtain whole | parted := also.ends
  · rw [whole]
    exact (begins_of_ends is.ends).length_le
  · exact is.first other parted

/-- A target has one root. -/
theorem unique (is : IsRootOf root target) (also : IsRootOf other target) : root = other := by
  have shorter : root.length ≤ other.length := is.length_le also
  have inside : root <+: other :=
    List.prefix_of_prefix_length_le (begins_of_ends is.ends) (begins_of_ends also.ends) shorter
  exact inside.eq_of_length (Nat.le_antisymm shorter (also.length_le is))

end IsRootOf

/-- The walk over a target finds its root. It goes on for as long as what is left does not begin
with a double colon, so none begins earlier than where it stops. -/
theorem rootOf_isRoot (target : List Char) : IsRootOf (rootOf target) target := by
  fun_induction rootOf target with
  | case1 =>
    exact { ends := .inl rfl, first := fun _ _ => Nat.zero_le _ }
  | case2 rest =>
    exact { ends := .inr (List.prefix_append [':', ':'] rest), first := fun _ _ => Nat.zero_le _ }
  | case3 c rest single inductionHypothesis =>
    refine { ends := ?_, first := fun shorter parted => ?_ }
    · obtain whole | parted := inductionHypothesis.ends
      · exact .inl (congrArg (c :: ·) whole)
      · exact .inr (List.cons_prefix_cons.mpr ⟨rfl, parted⟩)
    · cases shorter with
      | nil =>
        obtain ⟨rfl, next⟩ := List.cons_prefix_cons.mp parted
        obtain ⟨after, rfl⟩ := next
        exact (single after rfl rfl).elim
      | cons d shorter =>
        have later := inductionHypothesis.first shorter (List.cons_prefix_cons.mp parted).2
        exact Nat.succ_le_succ later

/-- A text without a colon is the root of a target if it is all of it, or if a double colon follows
it at once. An earlier double colon would put a colon into the text. -/
theorem isRootOf_plain (name target : List Char) (plain : ':' ∉ name)
    (ends : name = target ∨ name ++ [':', ':'] <+: target) : IsRootOf name target := by
  refine { ends := ends, first := fun shorter parted => ?_ }
  by_contra early
  have colon : shorter ++ [':'] <+: target :=
    ((List.prefix_append_right_inj shorter).mpr (List.prefix_append [':'] [':'])).trans parted
  have fits : (shorter ++ [':']).length ≤ name.length := by
    simp only [List.length_append, List.length_singleton]
    omega
  have within : shorter ++ [':'] <+: name :=
    List.prefix_of_prefix_length_le colon (begins_of_ends ends) fits
  exact plain (within.subset (List.mem_append_right _ (List.mem_singleton_self _)))

/-- The root of a target, as a text. -/
theorem isRootOf_iff (other target : String) :
    IsRootOf other.toList target.toList ↔ other = root target := by
  have found : IsRootOf (root target).toList target.toList := by
    rw [root, String.toList_ofList]
    exact rootOf_isRoot target.toList
  constructor
  · intro is
    exact String.toList_injective (is.unique found)
  · rintro rfl
    exact found

/-- A message is the library's own if the root of its target is the library's name. -/
theorem isOwn_iff_root (message : Message) : message.IsOwn ↔ "liblog" = root message.target := by
  have plain : ':' ∉ "liblog".toList := by decide
  have below : "liblog::".toList = "liblog".toList ++ [':', ':'] := by decide
  rw [IsOwn, below, ← isRootOf_iff]
  constructor
  · rintro (whole | follows)
    · exact isRootOf_plain _ _ plain (.inl (congrArg String.toList whole.symm))
    · exact isRootOf_plain _ _ plain (.inr follows)
  · intro is
    obtain whole | follows := is.ends
    · exact .inl (String.toList_injective whole).symm
    · exact .inr follows

end Message

/-! ## Prints for messages -/

/-- The tags that a tag mode gives to messages with a given target. -/
inductive TagMode.Gives (target : String) : TagMode → String → Prop
  | whole : Gives target .target target
  | root (root : String) (is : Message.IsRootOf root.toList target.toList) :
    Gives target .root root
  | fixed (tag : String) : Gives target (.fixed tag) tag

/-- A tag mode gives one tag, the one that the bridge uses. -/
theorem Bridge.gives_iff (bridge : Bridge) (target tag : String) :
    bridge.tagMode.Gives target tag ↔ tag = bridge.tagFor target := by
  simp only [tagFor]
  cases bridge.tagMode with
  | target =>
    constructor
    · rintro ⟨⟩
      rfl
    · rintro rfl
      exact .whole
  | root =>
    constructor
    · rintro ⟨⟩
      rwa [← Message.isRootOf_iff]
    · rintro rfl
      exact .root _ ((Message.isRootOf_iff _ _).mpr rfl)
  | fixed fixed =>
    constructor
    · rintro ⟨⟩
      rfl
    · rintro rfl
      exact .fixed _

/-- The print that writes the record of a message for a bridge. -/
def Bridge.print (bridge : Bridge) (message : Message) : Call :=
  Call.printing bridge.channel (Priority.ofLevel message.level) (bridge.tagFor message.target)
    message.pieces

/-- It has the record of the message. -/
theorem Bridge.frame_print (bridge : Bridge) (message : Message) :
    (bridge.print message).frame = bridge.frame message := by
  rw [print, Call.frame_printing, frame_expected]
  rfl

/-- The steps in which a message for a bridge can be printed: one if the bridge is enabled for it,
and none if it is not. -/
def Bridge.asPrints (bridge : Bridge) (message : Message) : List Step :=
  if bridge.enabled message.level message.target then
    [.operate (.numbered bridge.logger) (.send (bridge.print message))]
  else []

/-- The steps that can be taken in the place of a step. A message that a bridge is asked to forward
is printed, and any other step is taken as it is. -/
def Step.asPrints (world : World) : Step → List Step
  | bridgeMessage bridge message => bridge.asPrints message
  | log message =>
    match world.facade.backend with
    | .bridge bridge =>
      if world.facade.maxLevel.admits message.level then bridge.asPrints message
      else [log message]
    | .absent | .collector => [log message]
  | step => [step]

namespace World

/-- A run in which messages are printed and not forwarded. -/
def asPrints : List Step → World → List Step
  | [], _ => []
  | first :: rest, world => first.asPrints world ++ asPrints rest (world.step first).world

/-- A message that is forwarded leaves the world as its print does. -/
theorem forward_eq_print (bridge : Bridge) (message : Message) (world : World) :
    world.forward emit bridge message = (run (bridge.asPrints message) world).world := by
  rw [forward, Bridge.asPrints]
  split
  · simp only [run, step_send, sending, refer, Bridge.frame_print]
  · rfl

/-- The process survives the print of a message. -/
theorem run_print_survived (bridge : Bridge) (message : Message) (world : World) :
    (run (bridge.asPrints message) world).aborted = false := by
  rw [Bridge.asPrints]
  split <;> rfl

/-- A run of one step leads where the step leads. -/
theorem run_single (step : Step) (world : World) :
    (run [step] world).world = (world.step step).world ∧
      ((run [step] world).aborted = false ↔ (world.step step).Survived) := by
  simp only [run]
  cases world.step step with
  | answered answer after => exact ⟨rfl, iff_of_true rfl trivial⟩
  | aborted last => exact ⟨rfl, iff_of_false (by simp) id⟩

/-- The steps in the place of a step lead where the step leads. -/
theorem run_asPrints_step (step : Step) (world : World) :
    (run (step.asPrints world) world).world = (world.step step).world ∧
      ((run (step.asPrints world) world).aborted = false ↔ (world.step step).Survived) := by
  have printed : ∀ bridge message, world.Asks bridge message step →
      (run (bridge.asPrints message) world).world = (world.step step).world ∧
        ((run (bridge.asPrints message) world).aborted = false ↔ (world.step step).Survived) := by
    intro bridge message asked
    rw [asked.step_eq, forward_eq_print]
    exact ⟨rfl, iff_of_true (run_print_survived bridge message world) trivial⟩
  cases step with
  | bridgeMessage bridge message => exact printed bridge message .direct
  | log message =>
    simp only [Step.asPrints]
    split
    · split
      · exact printed _ message (.installed ‹_› ‹_›)
      · exact run_single _ world
    · exact run_single _ world
    · exact run_single _ world
  | _ => exact run_single _ world

/-- A run in which messages are printed leads where the run leads in which they are forwarded. -/
theorem run_asPrints (steps : List Step) (world : World) :
    (run (asPrints steps world) world).world = (run steps world).world ∧
      (run (asPrints steps world) world).aborted = (run steps world).aborted := by
  induction steps generalizing world with
  | nil => exact ⟨rfl, rfl⟩
  | cons first rest inductionHypothesis =>
    -- What stands in the place of the first step ends the process just if that step does.
    obtain ⟨same, survives⟩ := run_asPrints_step first world
    rw [asPrints]
    cases taken : world.step first with
    | answered answer after =>
      rw [taken] at same survives
      have survived := survives.mpr trivial
      rw [run_append _ _ _ survived, same]
      simp only [run, taken, Outcome.world]
      exact inductionHypothesis after
    | aborted last =>
      rw [taken] at same survives
      have ended : (run (first.asPrints world) world).aborted = true :=
        eq_true_of_ne_false survives.mp
      rw [run_append_aborted _ _ _ ended]
      simp only [run, taken, ended, same, Outcome.world, and_self]

end World

/-- A message that is forwarded is a message that is printed.

A target has one root. A bridge is enabled for the messages of the levels up to its filter, but not
for those whose target has the library's name for its root; its tag mode gives one tag. The print of
the message goes to the channel of the bridge, if it has one, with the priority of the level, under
that tag, with the same pieces, so that its record is rerouted as any other. Whoever asks the bridge
to forward the message, and in whatever state the logger and the world are: if the bridge is not
enabled, nothing happens; if it is, the world is as the print leaves it, and its answer is kept to
itself. So in a run all messages for bridges can be printed instead. -/
theorem forwarded_messages_are_prints :
    (∀ (bridge : Bridge) (message : Message), ∃ root tag : String,
      let enabled := bridge.enabled message.level message.target
      let priority := Priority.ofLevel message.level
      let print := Call.printing bridge.channel priority tag message.pieces
      (∀ other : String,
        Message.IsRootOf other.toList message.target.toList ↔ other = root) ∧
      (enabled = true ↔
        message.level.verbosity ≤ bridge.filter.verbosity ∧ root ≠ "liblog") ∧
      (∀ other, bridge.tagMode.Gives message.target other ↔ other = tag) ∧
      print.frame = Frame.ofText bridge.channel priority (ofText tag)
        ((Line.written message.pieces).take 1023) ∧
      ∀ (world : World) (step : Step), world.Asks bridge message step →
        (enabled = false → world.step step = .answered .done world) ∧
        (enabled = true → ∃ result after,
          world.step (.operate (.numbered bridge.logger) (.send print)) =
            .answered (.sent result) after ∧
          world.step step = .answered .done after)) ∧
    ∀ steps world,
      (run (World.asPrints steps world) world).world = (run steps world).world ∧
        (run (World.asPrints steps world) world).aborted = (run steps world).aborted := by
  refine ⟨fun bridge message => ?_, run_asPrints⟩
  refine ⟨Message.root message.target, bridge.tagFor message.target,
    fun other => Message.isRootOf_iff other message.target, ?_,
    bridge.gives_iff message.target, Call.frame_printing bridge.channel _ _ message.pieces,
    fun world step asked => ⟨fun disabled => ?_, fun enabled => ?_⟩⟩
  · rw [bridge.enabled_iff, message.isOwn_iff_root]
    exact and_congr decide_eq_true_iff (not_congr eq_comm)
  · rw [asked.step_eq, forward, if_neg (by simp [disabled])]
  · refine ⟨_, _, rfl, ?_⟩
    rw [asked.step_eq, forward, if_pos enabled, ← Bridge.frame_print]
    rfl

/-- A bridge to the system channel of a logger whose writer is broken. A message below a telephony
component is handed to the writer as its print is, rerouted under the root of the target, and only
the print is told of the error. A third colon behind the library's name makes no difference to whose
target it is, a single one does. -/
theorem broken_writer_is_told_to_the_print_alone :
    let writer : CustomWriter :=
      { answer := fun _ _ => .error (.io .brokenPipe), isAvailable := true, received := [] }
    let world := ((World.start FileSystem.initial ⟨none, none⟩ .bare .bare).create Config.default
      (.custom writer)).2
    let bridge : Bridge := ⟨0, .root, some .system, .upTo .info⟩
    let message : Message := ⟨.info, "RILJ::net::dns", [.text "up", .failure, .text "!"]⟩
    let own : Message := ⟨.error, "liblog:::x", []⟩
    (∃ after,
      world.step (.operate (.numbered 0)
        (.send (.printTo .system .info "RILJ" message.pieces))) =
          .answered (.sent (.error (.io .brokenPipe))) after ∧
      world.step (.bridgeMessage bridge message) = .answered .done after ∧
      (after.host.customs 0).received =
        [⟨.radio, [[4], ofText "use-Rlog/RLOG-RILJ" ++ [0], ofText "up" ++ [0]]⟩]) ∧
    world.step (.bridgeMessage bridge own) = .answered .done world ∧
    bridge.enabled .error "liblog:x" = true := by
  intro writer world bridge message own
  obtain ⟨_, tag, _, _, tags, _, forwarded⟩ :=
    forwarded_messages_are_prints.1 bridge message
  have isRoot : Message.IsRootOf "RILJ".toList message.target.toList :=
    Message.isRootOf_plain _ _ (by decide) (.inr (by decide))
  obtain rfl : "RILJ" = tag := (tags "RILJ").mp (.root "RILJ" isRoot)
  obtain ⟨result, after, printed, same⟩ := (forwarded world _ .direct).2 (by decide)
  have answer : .sent (.error (.io .brokenPipe)) = Answer.sent result :=
    (Outcome.answered.inj printed).1
  have left : after = (world.step (.bridgeMessage bridge message)).world := by rw [same]; rfl
  refine ⟨⟨after, answer ▸ printed, same, ?_⟩, ?_, by decide⟩
  · rw [left]
    decide +kernel
  · obtain ⟨_, _, _, _, _, _, dropped⟩ := forwarded_messages_are_prints.1 bridge own
    exact (dropped world _ .direct).1 (by decide)

end KernelLog
