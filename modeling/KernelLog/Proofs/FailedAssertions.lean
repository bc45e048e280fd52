import KernelLog.Proofs.LineEdits
import KernelLog.Proofs.PrintedTexts
import KernelLog.Proofs.WorldMoves

/-!
# Failed assertions

A failed assertion is the last thing that a process says. It is said as a fatal
message is printed: the same line, the same route of the tag, the same one write, for
which a logger of the devices opens them if it has not. The difference is what comes
after it, which is nothing, whether the write succeeded or not.

What is said is the message of the caller if there is one, and else the condition as
it is written. Both ways to a line are the way of one text (`ofAssertion_eq`).
-/

namespace KernelLog

open Bytes World

/-- What is said of a failed assertion: the message of the caller, up to where its formatting fails,
or else the condition as it is written, or else that there was an assertion. -/
def Assertion.text (condition : Option String) (message : Option (List Piece)) : String :=
  match message, condition with
  | some pieces, _ => Message.text.written pieces
  | none, some condition => "Assertion failed: " ++ condition
  | none, none => "Unspecified assertion failed"

/-- A step at which an assertion fails: a logger is told, or something is asserted that does not
hold, of which the logger of the process is told with the condition as it is written. -/
inductive Step.FailsAssertion (tag : String) (message : Option (List Piece)) :
    LoggerRef → Option String → Step → Prop
  | told (on : LoggerRef) (condition : Option String) :
      FailsAssertion tag message on condition
        (.operate on (.failAssertion condition tag message))
  | asserted (condition : String) :
      FailsAssertion tag message .shared (some condition) (.assert false condition tag message)

/-! ## What is said -/

namespace Line

/-- The line of a failed assertion holds the text of what is said. -/
theorem ofAssertion_holds (condition : Option String) (message : Option (List Piece)) :
    (ofAssertion condition message).Holds (ofText (Assertion.text condition message)) := by
  cases message with
  | some pieces =>
    have held := format_holds pieces
    rw [← Message.ofText_written] at held
    exact held
  | none =>
    cases condition with
    | none => exact push_holds empty [] _ empty_holds
    | some condition =>
      have begun := push_holds empty [] (ofText "Assertion failed: ") empty_holds
      have held := push_holds _ _ (ofText condition) begun
      rwa [List.nil_append, ← ofText_append] at held

/-- The line of a failed assertion is that of its text. -/
theorem ofAssertion_eq (condition : Option String) (message : Option (List Piece)) :
    ofAssertion condition message = format [.text (Assertion.text condition message)] := by
  have held := format_holds [.text (Assertion.text condition message)]
  rw [written, written, List.append_nil] at held
  exact held.unique (ofAssertion_holds condition message)

end Line

/-- The record of a failed assertion is that of its text, printed as a fatal message. -/
theorem Frame.ofAssertion_eq (condition : Option String) (tag : String)
    (message : Option (List Piece)) :
    Frame.ofLine none .fatal tag (Line.ofAssertion condition message) =
      (Call.print .fatal tag [.text (Assertion.text condition message)]).frame := by
  rw [Line.ofAssertion_eq]
  rfl

/-- A text that is printed shows what is visible of its leading bytes. -/
theorem Call.frame_print_text (priority : Priority) (tag text : String) :
    ∃ channel shown, (Call.print priority tag [.text text]).frame =
      Frame.showing channel priority shown (cutAtNul ((ofText text).take 1023)) := by
  obtain ⟨channel, shown, shows⟩ := Frame.ofText_shows none priority (ofText tag)
  have bytes : Line.written [.text text] = ofText text := List.append_nil _
  refine ⟨channel, shown, ?_⟩
  rw [← shows, ← bytes]
  exact Call.frame_printing none priority tag [.text text]

/-! ## The one write -/

namespace World

/-- A logger that is not just opening its devices has its target once it has been asked for it. It
has requested them then, if it had not, and nothing is written. -/
theorem obtain_ready (id : Nat) (world : World)
    (free : (world.loggers id).dispatch ≠ .opening) :
    let opened := world.obtain emit id
    (∃ target, (opened.loggers id).dispatch = .chosen target) ∧ opened.host = world.host ∧
      opened.requests = world.requests ++ world.outstanding id := by
  intro opened
  cases dispatch : (world.loggers id).dispatch with
  | opening => exact (free dispatch).elim
  | chosen target =>
    have same : opened = world := obtain_of_chosen world id target emit dispatch
    rw [same]
    simp [dispatch, outstanding]
  | unopened =>
    have waiting : world.Waiting (world.loggers id).config world.requests id :=
      ⟨rfl, dispatch, rfl⟩
    obtain ⟨serving, sameHost⟩ := waiting.obtain id world
    refine ⟨serving.bound, sameHost, serving.requests_eq.trans ?_⟩
    simp only [outstanding, dispatch]

/-- A frame that is sent on such a logger is one write to that target. -/
theorem send_once (id : Nat) (frame : Frame) (world : World)
    (free : (world.loggers id).dispatch ≠ .opening) :
    let opened := world.obtain emit id
    ∃ target, (opened.loggers id).dispatch = .chosen target ∧
      let written := world.host.write target frame
      world.send emit id frame =
        (written.answer, opened.boundTo id written.target written.host) := by
  intro opened
  obtain ⟨⟨target, bound⟩, sameHost, _⟩ := obtain_ready id world free
  refine ⟨target, bound, ?_⟩
  rw [send_ready world id target emit frame bound, send_of_chosen opened id target emit frame bound,
    sameHost]

end World

/-- A failed assertion is printed once, and the process ends.

It is printed as a fatal message under its tag, with the text of what is said: the step leads to the
world that this print would lead to, whatever the print would be answered, and ends the process
there. What is shown of the text is what stands before the first NUL of its first 1023 bytes. Unless
the logger is just opening its devices, it has its target, or gets it for this, with one request for
each device; and the record is written to that target once. A writer from outside has received one
frame more. Wherever the step stands in a run, the steps behind it do not matter. -/
theorem failed_assertion_is_printed_once (on : LoggerRef) (condition : Option String)
    (tag : String) (message : Option (List Piece)) (step : Step)
    (fails : step.FailsAssertion tag message on condition) (world : World) :
    let text := Assertion.text condition message
    let print := Call.print .fatal tag [.text text]
    let id := (world.refer on).1
    let found := (world.refer on).2
    let opened := found.obtain emit id
    (∃ channel shown, print.frame =
      Frame.showing channel .fatal shown (cutAtNul ((ofText text).take 1023))) ∧
    ∃ result last,
      world.step (.operate on (.send print)) = .answered (.sent result) last ∧
      world.step step = .aborted last ∧
      ((found.loggers id).dispatch ≠ .opening →
        opened.host = found.host ∧ opened.requests = found.requests ++ found.outstanding id ∧
        ∃ target, (opened.loggers id).dispatch = .chosen target ∧
          let written := found.host.write target print.frame
          result = written.answer ∧ last = opened.boundTo id written.target written.host ∧
          ∀ number, target = .custom number →
            (last.host.customs number).received =
              (found.host.customs number).received ++ [print.frame]) ∧
      ∀ (before later : List Step) (start : World), (run before start).aborted = false →
        (run before start).world = world →
        run (before ++ step :: later) start =
          { answers := (run before start).answers, world := last, aborted := true } := by
  intro text print id found opened
  have ended : world.step step = .aborted (found.send emit id print.frame).2 := by
    have same := Frame.ofAssertion_eq condition tag message
    cases fails with
    | told on condition => simp only [World.step, operate, same, print, text, found, id]
    | asserted condition =>
      simp only [World.step, operate, same, print, text, found, id, Bool.false_eq_true, ↓reduceIte]
  refine ⟨Call.frame_print_text .fatal tag text, (found.send emit id print.frame).1,
    (found.send emit id print.frame).2, rfl, ended, fun free => ?_,
    fun before later start survived reached => ?_⟩
  · obtain ⟨_, sameHost, requested⟩ := obtain_ready id found free
    obtain ⟨target, bound, sent⟩ := send_once id print.frame found free
    refine ⟨sameHost, requested, target, bound, ?_⟩
    rw [sent]
    refine ⟨rfl, rfl, ?_⟩
    rintro number rfl
    simp only [boundTo_host, Host.write, Numbered.set_same]
  · subst reached
    exact run_ended before later step start _ survived ended

/-- A writer from outside that refuses everything still receives what a failed assertion has to say:
the condition as it is written, under a tag for the radio channel. The write behind it is not made.
-/
theorem refused_assertion_ends_the_process :
    let writer : CustomWriter :=
      { answer := fun _ _ => .error (.io .brokenPipe), isAvailable := false, received := [] }
    let start := ((World.start FileSystem.initial ⟨none, none⟩ .bare .bare).create Config.default
      (.custom writer)).2
    let write := Step.operate (.numbered 0) (.send (.write .info "app" "started"))
    let condition := "x < 1%d\x7b\x7d"
    let step := Step.operate (.numbered 0) (.failAssertion (some condition) "RIL" none)
    let run := World.run ([write] ++ step :: [write]) start
    step.FailsAssertion "RIL" none (.numbered 0) (some condition) ∧
    (start.loggers 0).dispatch ≠ .opening ∧
    run.aborted = true ∧ run.answers = [.sent (.error (.io .brokenPipe))] ∧
    (run.world.host.customs 0).received =
      [.showing .main .info (ofText "app") (ofText "started"),
        .showing .radio .fatal (ofText "use-Rlog/RLOG-RIL")
          (ofText "Assertion failed: x < 1%d\x7b\x7d")] := by
  intro writer start write condition step run
  let world := (World.run [write] start).world
  have fails : step.FailsAssertion "RIL" none (.numbered 0) (some condition) :=
    .told (.numbered 0) (some condition)
  obtain ⟨_, result, last, _, _, once, ends⟩ :=
    failed_assertion_is_printed_once (.numbered 0) (some condition) "RIL" none step fails world
  have ended : run =
      { answers := (World.run [write] start).answers, world := last, aborted := true } :=
    ends [write] [write] start rfl rfl
  obtain ⟨_, _, target, bound, _, _, received⟩ := once nofun
  have told := received 0 (Dispatch.chosen.inj bound).symm
  refine ⟨fails, nofun, congrArg Run.aborted ended, congrArg Run.answers ended, ?_⟩
  rw [ended, told]
  decide +kernel

end KernelLog
