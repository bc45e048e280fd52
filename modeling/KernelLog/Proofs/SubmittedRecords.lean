import KernelLog.Proofs.BoundedLines
import KernelLog.Proofs.Deliveries
import KernelLog.Proofs.RoutedTags

/-!
# One submission, one record

Eight calls and the bridge make a logger write a record, each on a way of its own:
routed or not, through a bounded line or not, text or event. `Submission.expected`
is the one reference for all of them: the channel and the parts of the record, said
without routes, records or lines.

A run of submissions hands the target of the logger exactly these records, one for
each submission and in their order, and passes on what the target answers, be it an
error. Nothing is said of how the target answers: it may be any writer.
-/

namespace KernelLog

open Bytes Routing

/-! ## The reference -/

/-- The record of a text. Without a requested channel it is for main, and more tags count as
telephony. The visible part of a telephony tag leads to radio, unless radio is where the record goes
anyway, and is rewritten there; message and tag show what stands before their first NUL. -/
def Frame.ofText (requested : Option Channel) (priority : Priority) (tag message : Bytes) : Frame :=
  let rules := if requested = none then RuleSet.defaultChannel else RuleSet.explicitChannel
  let visible := cutAtNul tag
  if requested.getD .main ≠ .radio ∧ isRadioTag rules visible then
    { channel := .radio
      segments := [[priority.toByte], (rewrittenBeginning ++ visible).take 31 ++ [0],
        cutAtNul message ++ [0]] }
  else
    { channel := requested.getD .main
      segments := [[priority.toByte], visible ++ [0], cutAtNul message ++ [0]] }

/-- What makes a logger write: a call on it, or a message handed to a bridge. -/
inductive Submission
  | call (call : Call)
  | bridged (bridge : Bridge) (message : Message)

namespace Submission

/-- The step of the process that a submission to a logger is. -/
def step (id : Nat) : Submission → Step
  | call made => .operate (.numbered id) (.send made)
  | bridged bridge message => .bridgeMessage bridge message

/-- A call reaches the logger it is made on. A message does if its bridge leads there and is enabled
for it. -/
def Reaches (id : Nat) : Submission → Prop
  | call _ => True
  | bridged bridge message =>
    bridge.logger = id ∧ bridge.enabled message.level message.target = true

/-- What the caller is told: the answer of the target, which a bridge keeps to itself. -/
def told : Submission → Except Error Nat → Answer
  | call _, result => .sent result
  | bridged _ _, _ => .done

/-- The record that a submission has to lead to. A formatted message counts up to 1023 bytes. -/
def expected : Submission → Frame
  | call (.write priority tag message) =>
    Frame.ofText none priority (Bytes.ofText tag) (Bytes.ofText message)
  | call (.writeTo channel priority tag message) =>
    Frame.ofText (some channel) priority (Bytes.ofText tag) (Bytes.ofText message)
  | call (.print priority tag pieces) =>
    Frame.ofText none priority (Bytes.ofText tag) ((Line.written pieces).take 1023)
  | call (.printTo channel priority tag pieces) =>
    Frame.ofText (some channel) priority (Bytes.ofText tag) ((Line.written pieces).take 1023)
  | call (.event tag payload) => { channel := .events, segments := [ofInt32 tag, payload] }
  | call (.typedEvent tag typeByte payload) =>
    { channel := .events, segments := [ofInt32 tag, [typeByte], payload] }
  | call (.eventInt tag value) =>
    { channel := .events, segments := [ofInt32 tag, [0], ofInt32 value] }
  | call (.eventLong tag value) =>
    { channel := .events, segments := [ofInt32 tag, [1], ofInt64 value] }
  | bridged bridge message =>
    Frame.ofText bridge.channel (Priority.ofLevel message.level)
      (Bytes.ofText (bridge.tagFor message.target)) ((Line.written message.pieces).take 1023)

end Submission

/-! ## Every way leads to the reference -/

/-- A record on a route that was chosen without a channel is the expected text. -/
theorem ofRoute_byDefault (priority : Priority) (tag message : Bytes) :
    Frame.ofRoute (Route.byDefault tag) priority (nulTerminated message) =
      Frame.ofText none priority tag message := by
  simp only [Frame.ofText, Route.byDefault, Route.choose, radio_tag_cut, Option.getD_none,
    ↓reduceIte]
  split <;>
    simp [Frame.ofRoute, TextRecord.segments, rewriteTag, longestRewritten, terminated_eq]

/-- A record on a route that was chosen with a channel is the expected text. -/
theorem ofRoute_explicit (channel : Channel) (priority : Priority) (tag message : Bytes) :
    Frame.ofRoute (Route.explicit channel tag) priority (nulTerminated message) =
      Frame.ofText (some channel) priority tag message := by
  simp only [Frame.ofText, Route.explicit, Route.choose, radio_tag_cut, Option.getD_some,
    reduceCtorEq, ↓reduceIte]
  split <;>
    simp [Frame.ofRoute, TextRecord.segments, rewriteTag, longestRewritten, terminated_eq]

/-- What a formatted line transmits is the visible part of what the line holds. -/
theorem terminated_format (pieces : List Piece) :
    nulTerminated (Line.format pieces).bytesWithNul =
      nulTerminated ((Line.written pieces).take 1023) := by
  rw [(Line.format_holds pieces).bytesWithNul, terminated_eq, terminated_eq, cut_append_nul]
  rfl

/-- A formatted record is the expected text of the bytes that its line holds. -/
theorem ofLine_format (channel : Option Channel) (priority : Priority) (tag : String)
    (pieces : List Piece) :
    Frame.ofLine channel priority tag (Line.format pieces) =
      Frame.ofText channel priority (Bytes.ofText tag) ((Line.written pieces).take 1023) := by
  cases channel with
  | none => simp only [Frame.ofLine, terminated_format, ofRoute_byDefault]
  | some channel => simp only [Frame.ofLine, terminated_format, ofRoute_explicit]

/-- Every call amounts to its expected record. -/
theorem Call.frame_expected (call : Call) : call.frame = (Submission.call call).expected := by
  cases call with
  | write priority tag message => exact ofRoute_byDefault priority _ _
  | writeTo channel priority tag message => exact ofRoute_explicit channel priority _ _
  | print priority tag message => exact ofLine_format none priority tag message
  | printTo channel priority tag message => exact ofLine_format (some channel) priority tag message
  | event tag payload => rfl
  | typedEvent tag typeByte payload => rfl
  | eventInt tag value => rfl
  | eventLong tag value => rfl

/-- Every message that a bridge forwards amounts to its expected record. -/
theorem Bridge.frame_expected (bridge : Bridge) (message : Message) :
    bridge.frame message = (Submission.bridged bridge message).expected :=
  ofLine_format bridge.channel _ _ message.pieces

/-! ## Runs of submissions -/

namespace Submission

/-- A submission that reaches a logger with a target writes its expected record to the target, once,
and passes on the answer. -/
theorem step_of_chosen (world : World) (id : Nat) (target : Target) (submission : Submission)
    (bound : (world.loggers id).dispatch = .chosen target) (reaches : submission.Reaches id) :
    let written := world.host.write target submission.expected
    world.step (submission.step id) =
      .answered (submission.told written.answer)
        (world.boundTo id written.target written.host) := by
  cases submission with
  | call made =>
    simp only [step, World.step, World.refer, World.operate, Call.frame_expected,
      World.send_of_chosen world id target World.emit _ bound, told]
  | bridged bridge message =>
    obtain ⟨rfl, enabled⟩ := reaches
    simp only [step, World.step, World.forward, if_pos enabled, Bridge.frame_expected,
      World.send_of_chosen world bridge.logger target World.emit _ bound, told]

/-- Submissions that reach a logger with a target write their expected records to it, one after
another. Each step leaves a logger with a target, so the next one finds it as the first did. -/
theorem run_of_chosen (world : World) (id : Nat) (target : Target) (submissions : List Submission)
    (bound : (world.loggers id).dispatch = .chosen target)
    (reaching : ∀ submission ∈ submissions, submission.Reaches id) :
    let written := world.host.writeAll target (submissions.map expected)
    World.run (submissions.map (step id)) world =
      { answers := List.zipWith told submissions written.answers
        world := world.boundTo id written.target written.host
        aborted := false } := by
  induction submissions generalizing world target with
  | nil =>
    simp [World.run, Host.writeAll, World.boundTo_self world id target bound]
  | cons first rest inductionHypothesis =>
    rw [List.forall_mem_cons] at reaching
    have taken := step_of_chosen world id target first bound reaching.1
    have later := inductionHypothesis
      (world.boundTo id (world.host.write target first.expected).target
        (world.host.write target first.expected).host)
      (world.host.write target first.expected).target (by simp [Logger.withDispatch]) reaching.2
    simp only [List.map_cons, World.run, taken, later, Host.writeAll, List.zipWith_cons_cons,
      World.boundTo_host, World.boundTo_again]

end Submission

/-- The answers of a writer to frames that it is handed one after another. -/
def CustomWriter.answersTo (writer : CustomWriter) : List Frame → List (Except Error Nat)
  | [] => []
  | frame :: rest =>
    writer.answer writer.received frame ::
      { writer with received := writer.received ++ [frame] }.answersTo rest

/-- A writer supplied from outside receives exactly the frames that are written, in their order. -/
theorem Host.writeAll_custom (host : Host) (number : Nat) (frames : List Frame) :
    let writer := host.customs number
    let told := { writer with received := writer.received ++ frames }
    host.writeAll (.custom number) frames =
      { answers := writer.answersTo frames
        target := .custom number
        host := { host with customs := host.customs.set number told } } := by
  induction frames generalizing host with
  | nil => simp [writeAll, CustomWriter.answersTo]
  | cons frame rest inductionHypothesis =>
    simp only [writeAll, write, inductionHypothesis, CustomWriter.answersTo, Numbered.set_same,
      Numbered.set_set, List.append_assoc, List.singleton_append]

/-- Every submission writes one record, the expected one, and the target's answer is the answer.

The first statement holds of every target: the run is the walk of the host over the expected
records, one write for each submission, and nothing else in the world changes. No write is repeated,
whatever its answer. The second spells out what that means for a writer from outside: it has
received one frame for each submission, in order, and the answers are the ones it gave. -/
theorem submissions_write_one_record_each (world : World) (id : Nat) (target : Target)
    (submissions : List Submission) (bound : (world.loggers id).dispatch = .chosen target)
    (reaching : ∀ submission ∈ submissions, submission.Reaches id) :
    let frames := submissions.map Submission.expected
    let run := World.run (submissions.map (Submission.step id)) world
    let written := world.host.writeAll target frames
    (run.answers = List.zipWith Submission.told submissions written.answers ∧
      written.answers.length = submissions.length ∧
      run.world = world.boundTo id written.target written.host ∧ run.aborted = false) ∧
    ∀ number, target = .custom number →
      (run.world.host.customs number).received =
        (world.host.customs number).received ++ frames ∧
      run.answers = List.zipWith Submission.told submissions
        ((world.host.customs number).answersTo frames) := by
  have walked := Submission.run_of_chosen world id target submissions bound reaching
  refine ⟨?_, ?_⟩
  · simp only [walked, Host.length_answers, List.length_map, and_self]
  · rintro number rfl
    simp only [walked, Host.writeAll_custom, World.boundTo_host, Numbered.set_same, and_self]

/-- A writer that breaks at its second frame is handed all three, each once: a telephony tag with a
NUL in it, a forwarded message, and an event. -/
theorem broken_writer_is_handed_every_record :
    let writer : CustomWriter :=
      { answer := fun received _ => if received.length = 1 then .error (.io .brokenPipe) else .ok 7
        isAvailable := true
        received := [] }
    let world := ((World.start FileSystem.initial ⟨none, none⟩ .bare .bare).create Config.default
      (.custom writer)).2
    let submissions : List Submission :=
      [.call (.writeTo .system .warn "RIL\x00x" "a\x00b"),
        .bridged { logger := 0 } ⟨.error, "app::net", [.text "up", .failure, .text "!"]⟩,
        .call (.eventInt 1 2)]
    let run := World.run (submissions.map (Submission.step 0)) world
    ((world.loggers 0).dispatch = .chosen (.custom 0) ∧
      ∀ submission ∈ submissions, submission.Reaches 0) ∧
    (run.world.host.customs 0).received =
      [⟨.radio, [[5], Bytes.ofText "use-Rlog/RLOG-RIL" ++ [0], Bytes.ofText "a" ++ [0]]⟩,
        ⟨.main, [[6], Bytes.ofText "app" ++ [0], Bytes.ofText "up" ++ [0]]⟩,
        ⟨.events, [[1, 0, 0, 0], [0], [2, 0, 0, 0]]⟩] ∧
    run.answers = [.sent (.ok 7), .done, .sent (.ok 7)] := by
  intro writer world submissions run
  have reaching : ∀ submission ∈ submissions, submission.Reaches 0 :=
    List.forall_mem_cons.mpr ⟨trivial, List.forall_mem_cons.mpr ⟨⟨rfl, by decide⟩,
      List.forall_mem_cons.mpr ⟨trivial, List.forall_mem_nil _⟩⟩⟩
  have held := submissions_write_one_record_each world 0 (.custom 0) submissions rfl reaching
  refine ⟨⟨rfl, reaching⟩, ?_, ?_⟩
  · rw [(held.2 0 rfl).1]
    decide
  · rw [(held.2 0 rfl).2]
    rfl

end KernelLog
