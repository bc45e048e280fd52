import KernelLog.World

/-!
# The library's own reports

What the library reports about opening devices is marked as its own, and a bridge
drops it whatever its filter says. So the facade can do no more with a report than
keep it: no logger, no file and no target changes, and no second report is made.
-/

namespace KernelLog

namespace Message

/-- A message under the library's own target: its name, or a part below it. -/
def IsOwn (message : Message) : Prop :=
  message.target = "liblog" ∨ "liblog::".toList <+: message.target.toList

/-- The messages that are marked as the library's own are those under its target. -/
theorem isInternal_iff (message : Message) :
    isInternal message.target = true ↔ message.IsOwn := by
  have below : (internalTarget ++ "::").toList = "liblog::".toList := rfl
  rw [isInternal, Bool.or_eq_true, beq_iff_eq, List.isPrefixOf_iff_prefix, below]
  rfl

/-- Every report of the library is marked as its own. -/
theorem report_internal (level : Level) (part text : String) :
    isInternal (report level part text).target = true := by
  have begins : (internalTarget ++ "::").toList.isPrefixOf
      (internalTarget ++ "::" ++ part).toList = true := by
    have whole : (internalTarget ++ "::" ++ part).toList =
        (internalTarget ++ "::").toList ++ part.toList := String.toList_append
    rw [whole, List.isPrefixOf_iff_prefix]
    exact List.prefix_append _ _
  simp only [isInternal, report, begins, Bool.or_true]

/-- The report on a refused configuration is marked as the library's own. -/
theorem configRefused_internal (wording : DocumentWording) (cause : ConfigError) :
    isInternal (configRefused wording cause).target = true :=
  report_internal .warn "config" _

end Message

/-- A bridge is enabled for the messages that its filter lets through, the library's own apart. -/
theorem Bridge.enabled_iff (bridge : Bridge) (message : Message) :
    bridge.enabled message.level message.target = true ↔
      bridge.filter.admits message.level = true ∧ ¬ message.IsOwn := by
  rw [enabled, Bool.and_eq_true, Bool.not_eq_true', ← Bool.not_eq_true, message.isInternal_iff]

/-- The reports on opening the devices are all reports of that part of the library. -/
theorem Attempts.reports_init {δ : Type} (attempts : Attempts δ) (directory : Bytes) :
    ∀ message ∈ attempts.reports directory,
      ∃ level text, message = Message.report level "init" text := by
  intro message member
  unfold Attempts.reports at member
  split at member
  · simp only [List.mem_append, Option.mem_toList, Option.map_eq_some_iff,
      List.mem_singleton] at member
    obtain ⟨cause, _, rfl⟩ | rfl := member
    · exact ⟨_, _, rfl⟩
    · exact ⟨_, _, rfl⟩
  · obtain ⟨⟨channel, cause⟩, _, rfl⟩ := List.mem_map.mp member
    exact ⟨_, _, rfl⟩

/-- The reports on opening the devices are all marked as the library's own. -/
theorem Attempts.reports_internal {δ : Type} (attempts : Attempts δ) (directory : Bytes) :
    ∀ message ∈ attempts.reports directory, Message.isInternal message.target = true := by
  intro message member
  obtain ⟨level, text, rfl⟩ := attempts.reports_init directory message member
  exact Message.report_internal level "init" text

/-- The facade that has been handed a report of the library: only a collector keeps it. -/
def Facade.noting (facade : Facade) (message : Message) : Facade :=
  if facade.maxLevel.admits message.level ∧ facade.backend = .collector then
    { facade with collected := facade.collected ++ [message] }
  else facade

namespace World

/-- The facade, where something is to be done over a bridge that is enabled for a message. -/
def handing (bridged : Bridge → Message → World → World) : Emit := fun message world =>
  if world.facade.maxLevel.admits message.level then
    match world.facade.backend with
    | .absent => world
    | .collector =>
      let collected := world.facade.collected ++ [message]
      { world with facade := { world.facade with collected := collected } }
    | .bridge bridge =>
      if bridge.enabled message.level message.target then bridged bridge message world else world
  else world

/-- Calls the logger of a bridge with the record of a message. What is reported meanwhile goes to
another facade. -/
def calling (nested : Emit) (bridge : Bridge) (message : Message) (world : World) : World :=
  (world.send nested bridge.logger (bridge.frame message)).2

/-- Each facade calls loggers, and hands what they report to the facade one level further down. -/
theorem log_succ (depth : Nat) : log (depth + 1) = handing (calling (log depth)) := rfl

/-- A facade that can do no more with the library's own messages than keep them. -/
def Discreet (emit : Emit) : Prop := ∀ message world, Message.isInternal message.target = true →
  emit message world = { world with facade := world.facade.noting message }

/-- Whatever is done over a bridge, it is not done for the library's own messages. A bridge is not
enabled for them, so no logger is asked for its target. -/
theorem handing_discreet (bridged : Bridge → Message → World → World) :
    Discreet (handing bridged) := by
  intro message world own
  simp only [handing, Facade.noting]
  by_cases admitted : world.facade.maxLevel.admits message.level = true
  · simp only [admitted, ↓reduceIte, true_and]
    cases backend : world.facade.backend with
    | absent => simp
    | collector => simp
    | bridge bridge => simp [Bridge.enabled, own]
  · simp [admitted]

/-- However deep messages may be nested, the facade does no more with one of the library's own. -/
theorem log_discreet (depth : Nat) : Discreet (log (depth + 1)) := by
  rw [log_succ]
  exact handing_discreet _

/-- The facade of the process is discreet. -/
theorem emit_discreet : Discreet World.emit := log_discreet 1

/-- The facade of the process can do no more with one of the library's own messages. -/
theorem emit_own (message : Message) (world : World)
    (own : Message.isInternal message.target = true) :
    emit message world = { world with facade := world.facade.noting message } :=
  emit_discreet message world own

/-- Handing over several of the library's own messages changes the facade alone. -/
theorem Discreet.emit_all {emit : Emit} (discreet : Discreet emit) (messages : List Message)
    (world : World) (own : ∀ message ∈ messages, Message.isInternal message.target = true) :
    messages.foldl (fun world message => emit message world) world =
      { world with facade := messages.foldl Facade.noting world.facade } := by
  induction messages generalizing world with
  | nil => rfl
  | cons message rest inductionHypothesis =>
    rw [List.forall_mem_cons] at own
    rw [List.foldl_cons, discreet message world own.1, inductionHypothesis _ own.2]
    rfl

end World
end KernelLog
