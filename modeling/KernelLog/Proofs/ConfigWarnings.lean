import KernelLog.Proofs.ChosenTargets
import KernelLog.Proofs.ExplicitSteps

/-!
# Warnings about the configuration of the process

A configuration that is refused is reported once, when it is read. A collector shows
that this is the only report of its kind: nothing that steps do on explicit loggers
brings another, so the collector's warnings count how often a configuration was
refused, unless the process logs such warnings itself.
-/

namespace KernelLog

/-- What is reported when the configuration of the process is read: a warning if it is refused. -/
def Message.onConfig (wording : DocumentWording) : Except ConfigError Config → List Message
  | .ok _ => []
  | .error cause => [configRefused wording cause]

/-- Whether a message is a warning about the configuration of the process. -/
def Message.isConfigWarning (message : Message) : Bool :=
  message.level == .warn && message.target == "liblog::config"

/-- The warnings about the configuration of the process that a collector holds. -/
def Facade.configWarnings (facade : Facade) : List Message :=
  facade.collected.filter (·.isConfigWarning)

/-- A facade whose collector is handed warnings, and holds these about the configuration of the
process. -/
structure Facade.Collects (warned : List Message) (facade : Facade) : Prop where
  backend : facade.backend = .collector
  admits : facade.maxLevel.admits .warn = true
  configWarnings_eq : facade.configWarnings = warned

/-- Reports on opening the devices are no warnings about the configuration. -/
theorem Message.isConfigWarning_init (level : Level) (text : String) :
    (report level "init" text).isConfigWarning = false := by
  have other : ((report level "init" text).target == "liblog::config") = false := rfl
  rw [isConfigWarning, other, Bool.and_false]

/-- The report on a refused configuration is one. -/
theorem Message.isConfigWarning_configRefused (wording : DocumentWording) (cause : ConfigError) :
    (configRefused wording cause).level = .warn ∧
      (configRefused wording cause).isConfigWarning = true :=
  ⟨rfl, rfl⟩

namespace Facade.Collects

variable {facade : Facade} {warned : List Message}

/-- A collector that is handed a message of another kind holds no more of those warnings. -/
theorem noting (held : facade.Collects warned) (message : Message)
    (other : message.isConfigWarning = false) : (facade.noting message).Collects warned := by
  unfold Facade.noting
  split
  · refine ⟨held.backend, held.admits, ?_⟩
    rw [← held.configWarnings_eq]
    simp only [configWarnings, List.filter_append, List.filter_cons, other, List.filter_nil,
      Bool.false_eq_true, ↓reduceIte, List.append_nil]
  · exact held

/-- A collector that is handed several messages of other kinds holds no more of them either. -/
theorem noting_all (held : facade.Collects warned) (messages : List Message)
    (others : ∀ message ∈ messages, message.isConfigWarning = false) :
    (messages.foldl Facade.noting facade).Collects warned := by
  induction messages generalizing facade with
  | nil => exact held
  | cons message rest inductionHypothesis =>
    rw [List.forall_mem_cons] at others
    exact inductionHypothesis (held.noting message others.1) others.2

/-- A collector holds the warning about a refused configuration, and nothing about another. -/
theorem noting_onConfig (held : facade.Collects warned) (wording : DocumentWording)
    (found : Except ConfigError Config) :
    ((Message.onConfig wording found).foldl Facade.noting facade).Collects
      (warned ++ Message.onConfig wording found) := by
  cases found with
  | ok config => simpa only [Message.onConfig, List.foldl_nil, List.append_nil] using held
  | error cause =>
    obtain ⟨level, warning⟩ := Message.isConfigWarning_configRefused wording cause
    have noted : facade.noting (Message.configRefused wording cause) =
        { facade with
          collected := facade.collected ++ [Message.configRefused wording cause] } := by
      simp only [Facade.noting, level, held.admits, held.backend, and_self, ↓reduceIte]
    simp only [Message.onConfig, List.foldl_cons, List.foldl_nil, noted]
    refine ⟨held.backend, held.admits, ?_⟩
    rw [← held.configWarnings_eq]
    simp only [configWarnings, List.filter_append, List.filter_cons, warning, List.filter_nil,
      ↓reduceIte]

end Facade.Collects

/-- Whether a step logs a warning about the configuration of the process itself. -/
def Step.warnsOfConfig : Step → Bool
  | .log message => message.isConfigWarning
  | _ => false

/-- The same step on an explicit logger logs what it logged. -/
theorem Step.warnsOfConfig_onto (id : Nat) (step : Step) :
    (step.onto id).warnsOfConfig = step.warnsOfConfig := by
  cases step with
  | assert holds condition tag message => cases holds <;> rfl
  | _ => rfl

/-- Nor do the same steps on an explicit logger log any such warning, if they did not. -/
theorem Step.warnsOfConfig_map_onto (id : Nat) (steps : List Step)
    (others : ∀ step ∈ steps, step.warnsOfConfig = false) :
    ∀ step ∈ steps.map (Step.onto id), step.warnsOfConfig = false := by
  intro step member
  obtain ⟨source, among, rfl⟩ := List.mem_map.mp member
  rw [warnsOfConfig_onto]
  exact others source among

namespace World

section Collected

variable {warned : List Message} {world : World} (held : world.facade.Collects warned)
include held

/-- Opening the devices is reported, but not as a warning about the configuration. -/
theorem obtain_collects (id : Nat) : (world.obtain emit id).facade.Collects warned := by
  cases dispatch : (world.loggers id).dispatch with
  | unopened =>
    rw [obtain_of_unopened id world dispatch]
    refine held.noting_all _ fun message member => ?_
    obtain ⟨level, text, rfl⟩ := Attempts.reports_init _ _ message member
    exact Message.isConfigWarning_init level text
  | opening => simpa only [obtain, dispatch] using held
  | chosen target => simpa only [obtain, dispatch] using held

/-- Writing a frame says nothing about the configuration. -/
theorem send_collects (id : Nat) (frame : Frame) :
    (world.send emit id frame).2.facade.Collects warned := by
  have ready := obtain_collects held id
  simp only [send, deliver]
  split <;> exact ready

/-- Nothing that is done with a logger says anything about the configuration. -/
theorem operate_collects (id : Nat) (operation : Operation) :
    (world.operate id operation).world.facade.Collects warned := by
  cases operation with
  | send call => exact send_collects held id call.frame
  | failAssertion condition tag message => exact send_collects held id _
  | isAvailable =>
    have ready := obtain_collects held id
    simp only [operate, isAvailable, Outcome.world]
    split <;> exact ready
  | isMainWritable =>
    simp only [operate, isMainWritable, Outcome.world]
    split <;> exact held
  | isInitialized | isLoggable _ _ | config | describe => exact held

/-- A step on explicit loggers that logs no such warning itself brings none about. -/
theorem step_collects (step : Step) (unused : step.usesShared = false)
    (other : step.warnsOfConfig = false) :
    (world.step step).world.facade.Collects warned := by
  cases step with
  | operate on operation =>
    cases on with
    | shared => cases unused
    | numbered id => exact operate_collects held id operation
  | assert holds condition tag message =>
    cases holds with
    | true => exact held
    | false => cases unused
  | makeBridge on tagMode channel filter =>
    cases on with
    | shared => cases unused
    | numbered id => exact held
  | bridgeMessage bridge message =>
    simp only [World.step, forward, Outcome.world]
    split
    · exact send_collects held bridge.logger (bridge.frame message)
    · exact held
  | install on tagMode channel filter =>
    cases on with
    | shared => cases unused
    | numbered id =>
      have taken : world.facade.backend ≠ .absent := by simp [held.backend]
      simp only [World.step, makeBridge, refer, World.install, Facade.install_taken _ _ taken,
        Outcome.world]
      exact held
  | log message =>
    have noted := held.noting message other
    simp only [World.step, emit, nesting, World.log, held.backend, Outcome.world]
    simpa only [Facade.noting, held.backend, and_true, apply_ite World.facade] using noted
  | create config binding => cases binding <;> exact held
  | change _ _ | deposit _ _ | clear _ => exact held

/-- A run on explicit loggers that logs no such warnings itself brings none about. -/
theorem run_collects (steps : List Step) (unused : ∀ step ∈ steps, step.usesShared = false)
    (others : ∀ step ∈ steps, step.warnsOfConfig = false) :
    (run steps world).world.facade.Collects warned :=
  run_keeps (fun now => now.facade.Collects warned) steps
    (fun step member _ now => step_collects now step (unused step member) (others step member))
    world held

end Collected

end World
end KernelLog
