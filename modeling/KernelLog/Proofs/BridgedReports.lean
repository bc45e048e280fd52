import KernelLog.Proofs.Installations

/-!
# The library's own reports are never bridged

A bridge leads from the facade to a logger, and opening the devices of a logger leads
back to the facade. The way is cut at the bridge, which drops what the library
reports: so a run leaves no trace of such reports, a logger opens its devices once
although it reports on it, and a call on a logger is never made within another.

The statement is about all states that a run can lead to, of which `Settled` is the
invariant. In each of them a message that is forwarded to a logger without its target
is followed step by step: the four requests, the reports, and the record.
-/

namespace KernelLog

/-- Whether a step hands one of the library's own messages to the facade or to a bridge. -/
def Step.isOwn : Step → Bool
  | .bridgeMessage _ message | .log message => Message.isInternal message.target
  | .create _ _ | .operate _ _ | .assert _ _ _ _ | .change _ _ | .makeBridge _ _ _ _
  | .install _ _ _ _ | .deposit _ _ | .clear _ => false

namespace World

/-- A step that asks a bridge to forward a message: it is handed to the bridge, or to the facade
where the bridge is installed, if the maximum level lets it through. -/
inductive Asks (world : World) (bridge : Bridge) (message : Message) : Step → Prop
  | direct : Asks world bridge message (.bridgeMessage bridge message)
  | installed (backend : world.facade.backend = .bridge bridge)
      (admitted : world.facade.maxLevel.admits message.level = true) :
      Asks world bridge message (.log message)

section Steps

variable {world : World} {bridge : Bridge} {message : Message}

/-- A bridge that is asked to forward a message does so in the same way, whoever asks. -/
theorem Asks.step_eq {step : Step} (asked : world.Asks bridge message step) :
    world.step step = .answered .done (world.forward emit bridge message) := by
  cases asked with
  | direct => rfl
  | installed backend admitted =>
    simp only [World.step, emit_bridge bridge message world backend, if_pos admitted]

/-- Only a collector keeps messages. -/
theorem noting_eq {facade : Facade} (other : facade.backend ≠ .collector) :
    facade.noting message = facade :=
  if_neg fun collects => other collects.2

/-- Nor does any other backend keep several. -/
theorem noting_all_eq {facade : Facade} (other : facade.backend ≠ .collector)
    (messages : List Message) : messages.foldl Facade.noting facade = facade := by
  induction messages with
  | nil => rfl
  | cons message rest inductionHypothesis =>
    rw [List.foldl_cons, noting_eq other, inductionHypothesis]

/-- A bridge drops the library's own messages. -/
theorem forward_own (own : message.IsOwn) : world.forward emit bridge message = world := by
  have disabled : ¬ bridge.enabled message.level message.target = true := by
    rw [bridge.enabled_iff]
    exact fun enabled => enabled.2 own
  rw [forward, if_neg disabled]

/-- The facade keeps the library's own messages at most. -/
theorem step_log_own (own : message.IsOwn) :
    world.step (.log message) =
      .answered .done { world with facade := world.facade.noting message } := by
  simp only [World.step, emit_own message world (message.isInternal_iff.mpr own)]

/-- Handing over one of the library's own messages changes nothing, unless a collector keeps it. -/
theorem step_own {step : Step} (own : step.isOwn = true)
    (other : world.facade.backend ≠ .collector) : world.step step = .answered .done world := by
  cases step with
  | bridgeMessage bridge message =>
    simp only [World.step, forward_own (message.isInternal_iff.mp own)]
  | log message =>
    rw [step_log_own (message.isInternal_iff.mp own), noting_eq other]
  | _ => cases own

/-- A collector is there from the start, or never. -/
theorem step_other (step : Step) (other : world.facade.backend ≠ .collector) :
    (world.step step).world.facade.backend ≠ .collector := by
  obtain ⟨same, _⟩ | ⟨_, _, bridge, filter, found⟩ := step_installation world step
  · rw [Facade.backend_eq same]
    exact other
  · have backend : (world.step step).world.facade.backend = .bridge bridge :=
      congrArg Prod.fst found
    simp [backend]

/-- The library's own messages leave no trace in a run: without the steps that hand them over, it
ends in the same world with the same answers to all other steps. -/
theorem run_without_own (steps : List Step) (other : world.facade.backend ≠ .collector) :
    let whole := run steps world
    run (steps.filter (!·.isOwn)) world =
      { whole with
        answers := ((steps.zip whole.answers).filter (!·.1.isOwn)).map Prod.snd } := by
  induction steps generalizing world with
  | nil => rfl
  | cons step rest inductionHypothesis =>
    cases own : step.isOwn with
    | true =>
      simp only [List.filter_cons, own, Bool.not_true, Bool.false_eq_true, ↓reduceIte,
        inductionHypothesis other, run, step_own own other, List.zip_cons_cons]
    | false =>
      have next := step_other step other
      simp only [List.filter_cons, own, Bool.not_false, ↓reduceIte, run]
      cases taken : world.step step with
      | aborted last => rfl
      | answered answer after =>
        rw [taken] at next
        have later := inductionHypothesis (show after.facade.backend ≠ .collector from next)
        simp only [later, List.zip_cons_cons, List.filter_cons, own,
          Bool.not_false, ↓reduceIte, List.map_cons]

/-- A logger opens its devices in silence: it requests the four of them, and has the target that
they lead to. -/
def openSilently (id : Nat) (world : World) : World :=
  { world.boundTo id (Logger.targetOf ((world.loggers id).tryOpen world.host.files)) world.host with
    openings := world.openings ++
      [.device id .main, .device id .radio, .device id .events, .device id .system] }

/-- What a logger has to report when it opens its devices. -/
def reportsOn (id : Nat) (world : World) : List Message :=
  ((world.loggers id).tryOpen world.host.files).reports (world.loggers id).config.deviceDir

/-- A message that is forwarded to a logger without its target makes it open its devices, in silence
but for what the facade keeps of the reports, and then write. -/
theorem forward_unopened (enabled : bridge.enabled message.level message.target = true)
    (waiting : (world.loggers bridge.logger).dispatch = .unopened) :
    let opened := { world.openSilently bridge.logger with
      facade := (world.reportsOn bridge.logger).foldl Facade.noting world.facade }
    world.forward emit bridge message =
      (opened.deliver bridge.logger (bridge.frame message)).2 := by
  rw [forward, if_pos enabled, send, obtain_of_unopened bridge.logger world waiting]
  rfl

/-- A logger that opens its devices requests the four of them, and a write requests none. -/
theorem requests_openSilently (id : Nat) (facade : Facade) (frame : Frame) :
    (deliver id frame { world.openSilently id with facade := facade }).2.requests =
      world.requests ++ requestsOf id := by
  have opened : (world.openSilently id).requests = world.requests ++ requestsOf id := by
    simp [openSilently, requests, requestsOf]
  rw [← opened]
  simp only [deliver]
  split <;> rfl

end Steps

end World

open World

/-- The library's own reports never come back to it.

The statement is about every state that a run of any steps leads to from a settled one.

It is settled again: nothing waits for ever, and no logger is found half-way through opening its
devices. What a logger has requested and what it has yet to request are together what they were, so
it requests its devices once at most.

A message under the library's own target is dropped by every bridge, and the facade keeps it at
most, which it does not where a bridge is installed. So the steps that hand over such messages can
be left out of a run.

A bridge that is asked to forward another message drops it if it is not enabled. Otherwise, and if
its logger has no target yet, the logger requests its four devices, reports on that under the
library's own target, has the target that they lead to, whichever that is, and writes the record.
The report on a refused configuration of the process is the library's own as well.

Calls are never made within calls. A logger that is called, by the facade or past it, may as well
report to a guarded facade, under which a call would leave the world stuck; and however much room
there is for messages that are nested deeper, it is not used. -/
theorem own_reports_never_come_back (world : World) (settled : world.Settled)
    (steps : List Step) :
    let now := (run steps world).world
    (now.Settled ∧ ∀ id < world.count, now.requestsFor id ++ now.outstanding id =
      world.requestsFor id ++ world.outstanding id) ∧
    (∀ message : Message, message.IsOwn →
      (∀ bridge, now.step (.bridgeMessage bridge message) = .answered .done now) ∧
      now.step (.log message) = .answered .done { now with facade := now.facade.noting message } ∧
      (now.facade.backend ≠ .collector → now.facade.noting message = now.facade)) ∧
    (world.facade.backend ≠ .collector →
      run (steps.filter (!·.isOwn)) world = { run steps world with
        answers := ((steps.zip (run steps world).answers).filter (!·.1.isOwn)).map Prod.snd }) ∧
    (∀ bridge message step, now.Asks bridge message step →
      (bridge.enabled message.level message.target = false →
        now.step step = .answered .done now) ∧
      (bridge.enabled message.level message.target = true →
        (now.loggers bridge.logger).dispatch = .unopened →
        let reports := now.reportsOn bridge.logger
        let opened := { now.openSilently bridge.logger with
          facade := reports.foldl Facade.noting now.facade }
        now.step step = .answered .done (opened.deliver bridge.logger (bridge.frame message)).2 ∧
        (now.step step).world.requests = now.requests ++ requestsOf bridge.logger ∧
        (∀ report ∈ reports, report.IsOwn) ∧
        (now.facade.backend ≠ .collector → opened = now.openSilently bridge.logger))) ∧
    (∀ wording cause, (Message.configRefused wording cause).IsOwn) ∧
    (∀ id frame, now.send emit id frame = now.send guarded id frame) ∧
    emit = handing (calling guarded) ∧ ∀ depth, log (depth + 2) = emit := by
  intro now
  refine ⟨⟨settled.run steps, fun id known => requested_run world steps id known⟩, ?_,
    run_without_own steps, ?_, ?_, ?_, guarded_discreet.emit_eq, log_deeper⟩
  · intro message own
    refine ⟨fun bridge => ?_, step_log_own own, noting_eq⟩
    simp only [World.step, forward_own own]
  · intro bridge message step asked
    refine ⟨fun disabled => ?_, fun enabled waiting => ?_⟩
    · rw [asked.step_eq, forward, if_neg (by simp [disabled])]
    · have opened := forward_unopened enabled waiting
      rw [asked.step_eq, opened]
      refine ⟨rfl, requests_openSilently bridge.logger _ _, fun report member => ?_,
        fun other => ?_⟩
      · exact report.isInternal_iff.mp (Attempts.reports_internal _ _ report member)
      · simp only [noting_all_eq other]
        rfl
  · intro wording cause
    exact (Message.isInternal_iff _).mp (Message.configRefused_internal wording cause)
  · exact fun id frame => (guarded_discreet.send_eq id frame now).symm

/-- A bridge that lets everything through is installed on a logger whose events device is missing.
The first message of the process that is not the library's makes the logger look for its devices,
and the report on the missing one goes nowhere. The device is made then, but nothing is requested
again. Without the message of the library's own that the run begins with, it would end the same.
-/
theorem missing_device_is_reported_in_vain :
    let world := ((World.start FileSystem.initial ⟨none, none⟩ .bare .bare).create Config.default
      .devices).2
    let device := fun channel : Channel =>
      Step.change [Bytes.ofText "dev", Bytes.ofText "log", Bytes.ofText channel.deviceName]
        (.file [])
    let bridge : Bridge := ⟨0, .target, none, .upTo .trace⟩
    let early : List Step :=
      [.install (.numbered 0) .target none (.upTo .trace), device .main, device .radio,
        .log ⟨.trace, "liblog::init", [.text "own"]⟩]
    let message : Message := ⟨.trace, "liblog_user", [.text "1"]⟩
    let steps := early ++ [.log message, device .events, .log message]
    let before := (run early world).world
    let now := (run steps world).world
    world.Settled ∧ before.Asks bridge message (.log message) ∧
    before.reportsOn 0 =
      [⟨.warn, "liblog::init",
        [.text ("cannot open events channel: " ++ IoError.noSuchEntry.message)]⟩] ∧
    (before.step (.log message)).world.requests = before.requests ++ requestsOf 0 ∧
    now.requestsFor 0 = requestsOf 0 ∧ now.stuck = false ∧
    Config.default.opensCore now.host.files = true ∧
    (run (steps.filter (!·.isOwn)) world).world = now ∧
    now.step (.bridgeMessage bridge ⟨.trace, "liblog", []⟩) = .answered .done now := by
  intro world device bridge early message steps before now
  have settled : world.Settled :=
    (settled_start _ _ _ _).moves (create_moves _ Config.default .devices)
  have asked : before.Asks bridge message (.log message) := .installed rfl rfl
  obtain ⟨_, _, _, asking, _⟩ := own_reports_never_come_back world settled early
  have opened := (asking bridge message _ asked).2 (by decide) rfl
  obtain ⟨⟨quiet, requested⟩, own, without, _⟩ := own_reports_never_come_back world settled steps
  have due : world.requestsFor 0 ++ world.outstanding 0 = requestsOf 0 := by decide
  have left : now.outstanding 0 = [] := by decide +kernel
  have once := (requested 0 (by decide)).trans due
  rw [left, List.append_nil] at once
  have dropped := (own ⟨.trace, "liblog", []⟩ (.inl rfl)).1 bridge
  have shorter : (run (steps.filter (!·.isOwn)) world).world = now := by
    rw [without (by decide)]
  exact ⟨settled, asked, by decide +kernel, opened.2.1, once, quiet.free, by decide +kernel,
    shorter, dropped⟩

end KernelLog
