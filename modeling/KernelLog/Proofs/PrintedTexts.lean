import KernelLog.Proofs.FailedWrites

/-!
# Printing a text and writing it

A text can be written as it is, or printed piece by piece into a bounded line. The
two cut it in different orders: writing cuts at the first NUL, printing cuts behind
1023 bytes first and at the first NUL then. The two cuts commute, wherever the NUL is,
so what is printed is what is written, cut to 1023 bytes.

On the way to the target there is no other difference. What the target answers is
bounded by what it is handed, if it counts honestly: the library's own targets do,
and of a writer from outside it has to be supposed.
-/

namespace KernelLog

open Bytes Routing World

/-! ## The two calls -/

/-- The call that prints a message, on the channel that was requested, if any. -/
def Call.printing (requested : Option Channel) (priority : Priority) (tag : String)
    (pieces : List Piece) : Call :=
  match requested with
  | none => .print priority tag pieces
  | some channel => .printTo channel priority tag pieces

/-- The call that writes a text, on the channel that was requested, if any. -/
def Call.writing (requested : Option Channel) (priority : Priority) (tag text : String) : Call :=
  match requested with
  | none => .write priority tag text
  | some channel => .writeTo channel priority tag text

/-- A call on a logger whose record is a given frame. -/
def World.sending (on : LoggerRef) (frame : Frame) (world : World) : Outcome :=
  let (id, ready) := world.refer on
  let (result, after) := ready.send emit id frame
  .answered (.sent result) after

/-- Of a call nothing counts but its frame. -/
theorem World.step_send (on : LoggerRef) (call : Call) (world : World) :
    world.step (.operate on (.send call)) = world.sending on call.frame := rfl

/-! ## Their records -/

/-- The bytes of two texts together are those of the one and the other. -/
theorem Bytes.ofText_append (first second : String) :
    ofText (first ++ second) = ofText first ++ ofText second := by
  simp only [ofText, String.toList_append, List.flatMap_append]

/-- The text of the pieces of a message has the bytes that they present to a line. -/
theorem Message.ofText_written (pieces : List Piece) :
    ofText (text.written pieces) = Line.written pieces := by
  induction pieces with
  | nil => rfl
  | cons piece rest inductionHypothesis =>
    cases piece with
    | failure => rfl
    | text first => rw [text.written, ofText_append, inductionHypothesis, Line.written]

/-- The record that shows a tag and a message, of which neither holds a NUL. -/
def Frame.showing (channel : Channel) (priority : Priority) (tag message : Bytes) : Frame where
  channel := channel
  segments := [[priority.toByte], tag ++ [0], message ++ [0]]

/-- The record of a text has a channel and shows a tag that the text has no part in. -/
theorem Frame.ofText_shows (requested : Option Channel) (priority : Priority) (tag : Bytes) :
    ∃ channel shown, ∀ message,
      Frame.ofText requested priority tag message =
        Frame.showing channel priority shown (cutAtNul message) := by
  let rules := if requested = none then RuleSet.defaultChannel else RuleSet.explicitChannel
  by_cases telephony : requested.getD .main ≠ .radio ∧ isRadioTag rules (cutAtNul tag)
  · refine ⟨.radio, (rewrittenBeginning ++ cutAtNul tag).take 31, fun message => ?_⟩
    simp only [Frame.ofText, Frame.showing, if_pos telephony, rules]
  · refine ⟨requested.getD .main, cutAtNul tag, fun message => ?_⟩
    simp only [Frame.ofText, Frame.showing, if_neg telephony, rules]

/-- It takes three bytes more than its tag and its message. -/
theorem Frame.size_showing (channel : Channel) (priority : Priority) (tag message : Bytes) :
    (Frame.showing channel priority tag message).size = tag.length + message.length + 3 := by
  simp only [showing, size, List.foldr_cons, List.foldr_nil, List.length_append,
    List.length_singleton]
  omega

/-- A text is written as the record that is expected of it. -/
theorem Call.frame_writing (requested : Option Channel) (priority : Priority) (tag text : String) :
    (Call.writing requested priority tag text).frame =
      Frame.ofText requested priority (ofText tag) (ofText text) := by
  cases requested <;> exact Call.frame_expected _

/-- A message is printed as the record that is expected of its leading bytes. -/
theorem Call.frame_printing (requested : Option Channel) (priority : Priority) (tag : String)
    (pieces : List Piece) :
    (Call.printing requested priority tag pieces).frame =
      Frame.ofText requested priority (ofText tag) ((Line.written pieces).take 1023) := by
  cases requested <;> exact Call.frame_expected _

/-! ## What is answered -/

/-- A writer that counts no more bytes than it is handed. -/
def CustomWriter.Honest (writer : CustomWriter) : Prop :=
  ∀ received frame count, writer.answer received frame = .ok count → count ≤ frame.size

/-- Every target but a writer from outside counts honestly. -/
theorem Host.write_count_le (host : Host) (target : Target) (frame : Frame) (count : Nat)
    (honest : ∀ number, target = .custom number → (host.customs number).Honest)
    (answered : (host.write target frame).answer = .ok count) : count ≤ frame.size := by
  cases target with
  | devices devices =>
    simp only [write] at answered
    split at answered
    · exact Nat.le_of_eq (Except.ok.inj answered).symm
    · cases answered
  | nothing => cases answered
  | memory number => exact Nat.le_of_eq (Except.ok.inj answered).symm
  | custom number => exact honest number rfl _ _ _ answered

/-- A frame that is sent is answered with its size at most, unless its logger writes to a writer
from outside that counts otherwise. A target that is only just chosen is none from outside. -/
theorem World.send_count_le (id : Nat) (frame : Frame) (world : World) (count : Nat)
    (honest : ∀ number, (world.loggers id).dispatch = .chosen (.custom number) →
      (world.host.customs number).Honest)
    (answered : (world.send emit id frame).1 = .ok count) : count ≤ frame.size := by
  cases dispatch : (world.loggers id).dispatch with
  | chosen target =>
    rw [send_of_chosen world id target emit frame dispatch] at answered
    refine world.host.write_count_le target frame count (fun number same => ?_) answered
    exact honest number (same ▸ dispatch)
  | opening =>
    simp only [send, World.obtain, deliver, dispatch] at answered
    cases answered
  | unopened =>
    let target := Logger.targetOf ((world.loggers id).tryOpen world.host.files)
    have opened := obtain_of_unopened id world dispatch
    have bound : ((world.obtain emit id).loggers id).dispatch = .chosen target := by
      simp only [opened, boundTo_logger, Logger.withDispatch, target]
    have kernel : target.IsKernel := Logger.targetOf_isKernel _
    simp only [send, deliver, bound] at answered
    refine Host.write_count_le _ target frame count (fun number same => ?_) answered
    rw [same] at kernel
    exact kernel.elim

/-- A logger whose writer from outside, if it has one, counts no more bytes than it is handed. -/
def World.CountsHonestly (on : LoggerRef) (world : World) : Prop :=
  let (id, ready) := world.refer on
  ∀ number, (ready.loggers id).dispatch = .chosen (.custom number) →
    (ready.host.customs number).Honest

/-- A call on such a logger is answered with the size of its record at most. -/
theorem World.sending_count_le (on : LoggerRef) (frame : Frame) (world after : World) (count : Nat)
    (honest : world.CountsHonestly on)
    (answered : world.sending on frame = .answered (.sent (.ok count)) after) :
    count ≤ frame.size := by
  simp only [sending, Outcome.answered.injEq, Answer.sent.injEq] at answered
  exact send_count_le _ frame _ count honest answered.1

/-- Printing a message is writing its text, of which what is visible is cut to 1023 bytes.

The text is what formatting produced, up to its failure, and visible of it is what stands before its
first NUL. Both records have the same channel, priority and tag, and beyond its record nothing of a
call matters, whatever logger it is made on and whatever the state of the world: if no more than
1023 bytes are visible, printing and writing have the same answer and lead to the same world. What
is answered to a print that succeeds is bounded by the tag that was transmitted. -/
theorem print_is_write_cut_short (requested : Option Channel) (priority : Priority) (tag : String)
    (pieces : List Piece) :
    let text := Message.text.written pieces
    let visible := cutAtNul (ofText text)
    let print := Call.printing requested priority tag pieces
    let write := Call.writing requested priority tag text
    ofText text = Line.written pieces ∧
    ∃ channel shown,
      (write.frame = Frame.showing channel priority shown visible ∧
        print.frame = Frame.showing channel priority shown (visible.take 1023) ∧
        (visible.take 1023).length = min 1023 visible.length) ∧
      ∀ (on : LoggerRef) (world : World),
        let written := world.step (.operate on (.send write))
        let printed := world.step (.operate on (.send print))
        (written = world.sending on write.frame ∧ printed = world.sending on print.frame) ∧
        (visible.length ≤ 1023 → printed = written) ∧
        ∀ count after, world.CountsHonestly on →
          printed = .answered (.sent (.ok count)) after → count ≤ shown.length + 1026 := by
  intro text visible print write
  have bytes : ofText text = Line.written pieces := Message.ofText_written pieces
  obtain ⟨channel, shown, shows⟩ := Frame.ofText_shows requested priority (ofText tag)
  have written : write.frame = Frame.showing channel priority shown visible := by
    rw [Call.frame_writing, shows]
  have printed : print.frame = Frame.showing channel priority shown (visible.take 1023) := by
    rw [Call.frame_printing, shows, ← bytes, cut_take]
  have length : (visible.take 1023).length = min 1023 visible.length := List.length_take
  refine ⟨bytes, channel, shown, ⟨written, printed, length⟩, fun on world =>
    ⟨⟨step_send on write world, step_send on print world⟩, fun short => ?_,
      fun count after honest answered => ?_⟩⟩
  · rw [step_send, step_send, printed, written, List.take_of_length_le short]
  · have bounded : count ≤ print.frame.size :=
      sending_count_le on print.frame world after count honest answered
    rw [printed, Frame.size_showing, length] at bounded
    omega

/-- Two messages of a telephony component, both with a NUL behind their 1023rd byte: in the one it
follows at once, and printing is writing; in the other a character comes between, of which half is
printed, and the print is answered with the largest count there is for its tag. -/
theorem print_stops_within_a_character :
    let writer : CustomWriter :=
      { answer := fun _ frame => .ok frame.size, isAvailable := true, received := [] }
    let world := ((World.start FileSystem.initial ⟨none, none⟩ .bare .bare).create Config.default
      (.custom writer)).2
    let tag := "RIL\x00x"
    let fits := List.replicate 1023 (.text "x") ++ [.text "\x00y", .failure, .text "lost"]
    let exceeds := List.replicate 1022 (.text "x") ++ [.text "é\x00y", .failure, .text "lost"]
    let called (call : Call) := world.step (.operate (.numbered 0) (.send call))
    let shown := ofText "use-Rlog/RLOG-RIL"
    world.CountsHonestly (.numbered 0) ∧
    called (.printing none .info tag fits) =
      called (.writing none .info tag (Message.text.written fits)) ∧
    (Call.printing none .info tag exceeds).frame =
      .showing .radio .info shown (List.replicate 1022 120 ++ [195]) ∧
    (Call.writing none .info tag (Message.text.written exceeds)).frame =
      .showing .radio .info shown (List.replicate 1022 120 ++ [195, 169]) ∧
    ∃ after, called (.printing none .info tag exceeds) = .answered (.sent (.ok 1043)) after ∧
      1043 ≤ shown.length + 1026 := by
  intro writer world tag fits exceeds called shown
  have honest : world.CountsHonestly (.numbered 0) := by
    intro number bound
    obtain rfl : 0 = number := Target.custom.inj (Dispatch.chosen.inj bound)
    intro received frame count answered
    exact Nat.le_of_eq (Except.ok.inj answered).symm
  have same : called (.printing none .info tag fits) =
      called (.writing none .info tag (Message.text.written fits)) := by
    obtain ⟨bytes, _, _, _, calls⟩ := print_is_write_cut_short none .info tag fits
    refine (calls (.numbered 0) world).2.1 ?_
    rw [bytes]
    decide +kernel
  obtain ⟨bytes, channel, tagShown, ⟨_, printed, _⟩, calls⟩ :=
    print_is_write_cut_short none .info tag exceeds
  have visible : cutAtNul (Line.written exceeds) = List.replicate 1022 120 ++ [195, 169] := by
    decide +kernel
  have shows : ∀ message, Frame.ofText none .info (ofText tag) message =
      .showing .radio .info shown (cutAtNul message) := by
    have rewritten : (rewrittenBeginning ++ cutAtNul (ofText tag)).take 31 = shown := by decide
    intro message
    rw [Frame.ofText, if_pos (by decide), rewritten]
    rfl
  have frame : (Call.printing none .info tag exceeds).frame =
      .showing .radio .info shown (List.replicate 1022 120 ++ [195]) := by
    rw [Call.frame_printing, shows, cut_take, visible]
    decide +kernel
  have whole : (Call.writing none .info tag (Message.text.written exceeds)).frame =
      .showing .radio .info shown (List.replicate 1022 120 ++ [195, 169]) := by
    rw [Call.frame_writing, shows, bytes, visible]
  have tagged : tagShown = shown := by
    have records := congrArg (fun frame => frame.segments[1]?) (printed.symm.trans frame)
    exact List.append_cancel_right (Option.some.inj records)
  have size : (Call.printing none .info tag exceeds).frame.size = 1043 := by
    rw [frame, Frame.size_showing]
    decide +kernel
  let after := (world.send emit 0 (Call.printing none .info tag exceeds).frame).2
  have answered : called (.printing none .info tag exceeds) =
      .answered (.sent (.ok 1043)) after := by
    rw [← size]
    rfl
  have bounded : 1043 ≤ tagShown.length + 1026 :=
    (calls (.numbered 0) world).2.2 1043 after honest answered
  exact ⟨honest, same, frame, whole, after, answered, tagged ▸ bounded⟩

end KernelLog
