import KernelLog.Proofs.Runs

/-!
# Steps on explicit loggers

The process has a logger that nobody makes, and steps may use it in the place of one
that they name by its number. Two laws tell the two kinds of steps apart. A step that
does not use the logger of the process neither reads nor changes which one it is, nor
the environment (`step_under`). And once the process has its logger, a step that uses
it is the same step on the logger of its number (`step_of_made`).
-/

namespace KernelLog

/-- The reference to an explicit logger that stands for the one of the process. -/
def LoggerRef.onto (id : Nat) : LoggerRef → LoggerRef
  | .shared => .numbered id
  | .numbered other => .numbered other

namespace Step

/-- Whether a step uses the logger of the process. An assertion that holds does not. -/
def usesShared : Step → Bool
  | .operate on _ | .makeBridge on _ _ _ | .install on _ _ _ => on == .shared
  | .assert holds _ _ _ => !holds
  | .create _ _ | .change _ _ | .bridgeMessage _ _ | .log _ | .deposit _ _ | .clear _ => false

/-- The same step, with an explicit logger in the place of the one of the process. -/
def onto (id : Nat) : Step → Step
  | .operate on operation => .operate (on.onto id) operation
  | .assert false condition tag message =>
    .operate (.numbered id) (.failAssertion (some condition) tag message)
  | .makeBridge on tagMode channel filter => .makeBridge (on.onto id) tagMode channel filter
  | .install on tagMode channel filter => .install (on.onto id) tagMode channel filter
  | other => other

/-- A step on explicit loggers does not use the one of the process. -/
theorem usesShared_onto (id : Nat) (step : Step) : (step.onto id).usesShared = false := by
  cases step with
  | operate on _ | makeBridge on _ _ _ | install on _ _ _ => cases on <;> rfl
  | assert holds condition tag message => cases holds <;> rfl
  | create _ _ | change _ _ | bridgeMessage _ _ | log _ | deposit _ _ | clear _ => rfl

/-- Nor do several steps on explicit loggers. -/
theorem usesShared_map_onto (id : Nat) (steps : List Step) :
    ∀ step ∈ steps.map (onto id), step.usesShared = false := by
  intro step member
  obtain ⟨source, _, rfl⟩ := List.mem_map.mp member
  exact source.usesShared_onto id

/-- A step that does not use the logger of the process is on explicit loggers already. -/
theorem onto_of_unused (id : Nat) (step : Step) (unused : step.usesShared = false) :
    step.onto id = step := by
  cases step with
  | operate on _ | makeBridge on _ _ _ | install on _ _ _ =>
    cases on with
    | shared => cases unused
    | numbered other => rfl
  | assert holds condition tag message =>
    cases holds with
    | true => rfl
    | false => cases unused
  | create _ _ | change _ _ | bridgeMessage _ _ | log _ | deposit _ _ | clear _ => rfl

end Step

/-! ## Another logger of the process, and another environment -/

namespace World

/-- The world in which the process has another logger and another environment. -/
def under (shared : Option Nat) (environment : Environment) (world : World) : World :=
  { world with shared := shared, environment := environment }

/-- A facade for which neither the logger of the process nor the environment matters. -/
def Blind (emit : Emit) : Prop := ∀ message shared environment world,
  emit message (World.under shared environment world) =
    (emit message world).under shared environment

end World

/-- The outcome of a step in the world with another logger of the process and environment. -/
def Outcome.under (shared : Option Nat) (environment : Environment) : Outcome → Outcome
  | .answered answer after => .answered answer (after.under shared environment)
  | .aborted last => .aborted (last.under shared environment)

/-- A run that ends in the world with another logger of the process and environment. -/
def World.Run.under (shared : Option Nat) (environment : Environment) (run : World.Run) :
    World.Run :=
  { run with world := run.world.under shared environment }

namespace World

section Under

variable (shared : Option Nat) (environment : Environment) (id : Nat) (world : World)

/-- All loggers are the same. -/
@[simp] theorem under_loggers : (world.under shared environment).loggers = world.loggers := rfl

/-- So is the facade. -/
@[simp] theorem under_facade : (world.under shared environment).facade = world.facade := rfl

/-- A world is itself with its own logger of the process and its own environment. -/
theorem under_self : world.under world.shared world.environment = world := rfl

variable {emit : Emit} (blind : Blind emit)
include blind

/-- Handing over several messages does not depend on them either. -/
theorem emit_all_under (messages : List Message) :
    messages.foldl (fun world message => emit message world) (world.under shared environment) =
      (messages.foldl (fun world message => emit message world) world).under shared
        environment := by
  induction messages generalizing world with
  | nil => rfl
  | cons message rest inductionHypothesis =>
    rw [List.foldl_cons, List.foldl_cons, blind, inductionHypothesis]

/-- Opening the devices neither reads nor changes the logger of the process and the environment. -/
theorem obtain_under :
    (world.under shared environment).obtain emit id =
      (world.obtain emit id).under shared environment := by
  simp only [obtain, under_loggers]
  split
  · let attempted := Attempts.gather (openDevice id)
      (world.setLogger id ((world.loggers id).withDispatch .opening))
    have tried : Attempts.gather (openDevice id) ((world.under shared environment).setLogger id
        ((world.loggers id).withDispatch .opening)) =
      (attempted.1, attempted.2.under shared environment) := rfl
    simp only [tried, emit_all_under shared environment _ blind]
    rfl
  · rfl
  · rfl

/-- Nor does writing a frame. -/
theorem send_under (frame : Frame) :
    (world.under shared environment).send emit id frame =
      ((world.send emit id frame).1, (world.send emit id frame).2.under shared environment) := by
  simp only [send, obtain_under shared environment id world blind, deliver, under_loggers]
  split <;> rfl

/-- Nor does asking whether writes can succeed. -/
theorem isAvailable_under :
    (world.under shared environment).isAvailable emit id =
      ((world.isAvailable emit id).1, (world.isAvailable emit id).2.under shared environment) := by
  simp only [isAvailable, obtain_under shared environment id world blind, under_loggers]
  split <;> rfl

/-- Nor does a message that goes over a bridge. -/
theorem forward_under (bridge : Bridge) (message : Message) :
    (world.under shared environment).forward emit bridge message =
      (world.forward emit bridge message).under shared environment := by
  simp only [forward, send_under shared environment _ world blind]
  split <;> rfl

omit blind

/-- Nor does the facade, however deep messages are nested. Induct over the depth: a message that is
forwarded makes its reports one level further down. -/
theorem log_blind (depth : Nat) : Blind (log depth) := by
  induction depth with
  | zero => exact fun message shared environment world => rfl
  | succ depth inductionHypothesis =>
    intro message shared environment world
    simp only [log, under_facade, forward_under shared environment world inductionHypothesis]
    split
    · split <;> rfl
    · rfl

/-- The facade of the process depends on neither. -/
theorem emit_blind : Blind World.emit := log_blind nesting

/-- Nor does asking whether the main device can be written to. -/
theorem isMainWritable_under :
    (world.under shared environment).isMainWritable id =
      ((world.isMainWritable id).1, (world.isMainWritable id).2.under shared environment) := by
  simp only [isMainWritable, under_loggers]
  split <;> rfl

/-- Nothing that is done with a logger depends on which logger the process has. -/
theorem operate_under (operation : Operation) :
    (world.under shared environment).operate id operation =
      (world.operate id operation).under shared environment := by
  cases operation with
  | send call =>
    simp only [operate, send_under shared environment id world emit_blind]
    rfl
  | failAssertion condition tag message =>
    simp only [operate, send_under shared environment id world emit_blind]
    rfl
  | isAvailable =>
    simp only [operate, isAvailable_under shared environment id world emit_blind]
    rfl
  | isMainWritable =>
    simp only [operate, isMainWritable_under shared environment id world]
    rfl
  | isInitialized | isLoggable _ _ | config | describe => rfl

/-- Making a logger does not depend on it. -/
theorem create_under (config : Config) (binding : Binding) :
    (world.under shared environment).create config binding =
      ((world.create config binding).1,
        (world.create config binding).2.under shared environment) := by
  cases binding <;> rfl

/-- Installing a bridge does not depend on it. -/
theorem install_under (bridge : Bridge) :
    (world.under shared environment).install bridge =
      ((world.install bridge).1, (world.install bridge).2.under shared environment) := by
  simp only [World.install, under_facade]
  split <;> rfl

/-- A step that does not use the logger of the process neither reads nor changes which one it is,
nor the environment. -/
theorem step_under (step : Step) (unused : step.usesShared = false) :
    (world.under shared environment).step step =
      (world.step step).under shared environment := by
  cases step with
  | create config binding =>
    simp only [World.step, create_under]
    rfl
  | operate on operation =>
    cases on with
    | shared => cases unused
    | numbered id => exact operate_under shared environment id world operation
  | assert holds condition tag message =>
    cases holds with
    | true => rfl
    | false => cases unused
  | makeBridge on tagMode channel filter =>
    cases on with
    | shared => cases unused
    | numbered id => rfl
  | bridgeMessage bridge message =>
    simp only [World.step, forward_under shared environment world emit_blind]
    rfl
  | install on tagMode channel filter =>
    cases on with
    | shared => cases unused
    | numbered id =>
      simp only [World.step, makeBridge, refer, install_under]
      rfl
  | log message =>
    simp only [World.step, emit_blind message shared environment world]
    rfl
  | change _ _ | deposit _ _ | clear _ => rfl

/-- A run that does not use the logger of the process depends neither on which one it is nor on the
environment. -/
theorem run_under (steps : List Step) (unused : ∀ step ∈ steps, step.usesShared = false) :
    run steps (world.under shared environment) = (run steps world).under shared environment := by
  induction steps generalizing world with
  | nil => rfl
  | cons step rest inductionHypothesis =>
    rw [List.forall_mem_cons] at unused
    simp only [run, step_under shared environment world step unused.1]
    cases world.step step with
    | aborted last => rfl
    | answered answer after =>
      simp only [Outcome.under, inductionHypothesis after unused.2]
      rfl

/-- Such a run changes neither of them. -/
theorem run_keeps_under (steps : List Step) (unused : ∀ step ∈ steps, step.usesShared = false) :
    (run steps world).world.shared = world.shared ∧
      (run steps world).world.environment = world.environment := by
  have same := run_under world.shared world.environment world steps unused
  rw [under_self] at same
  rw [same]
  exact ⟨rfl, rfl⟩

end Under

/-! ## The logger of the process by its number -/

section Uses

variable (world : World)

/-- A step that uses the logger of the process is the step on the logger of its number, in the world
that comes with that number. -/
theorem step_shared (step : Step) (id : Nat) (after : World)
    (referred : world.refer .shared = (id, after)) (uses : step.usesShared = true) :
    world.step step = after.step (step.onto id) := by
  cases step with
  | operate on _ | makeBridge on _ _ _ | install on _ _ _ =>
    cases on with
    | shared =>
      simp only [World.step, makeBridge, referred]
      rfl
    | numbered other => cases uses
  | assert holds condition tag message =>
    cases holds with
    | true => cases uses
    | false =>
      simp only [World.step, referred]
      rfl
  | create _ _ | change _ _ | bridgeMessage _ _ | log _ | deposit _ _ | clear _ => cases uses

/-- Once the process has its logger, every step is the step on the logger of its number. -/
theorem step_of_made (step : Step) (id : Nat) (made : world.shared = some id) :
    world.step step = world.step (step.onto id) := by
  cases uses : step.usesShared with
  | false => rw [step.onto_of_unused id uses]
  | true =>
    have referred : world.refer .shared = (id, world) := by
      simp only [refer, sharedLogger, made]
    exact step_shared world step id world referred uses

/-- Once the process has its logger, a run is the run on the logger of its number. Induct over the
steps: each of them, on explicit loggers, leaves the process the logger that it has. -/
theorem run_of_made (id : Nat) (steps : List Step) (made : world.shared = some id) :
    run steps world = run (steps.map (Step.onto id)) world := by
  induction steps generalizing world with
  | nil => rfl
  | cons step rest inductionHypothesis =>
    have kept : (world.step (step.onto id)).world.shared = some id := by
      have same := step_under world.shared world.environment world (step.onto id)
        (step.usesShared_onto id)
      rw [under_self] at same
      rw [← made, same]
      cases world.step (step.onto id) <;> rfl
    rw [List.map_cons]
    simp only [run, step_of_made world step id made]
    cases taken : world.step (step.onto id) with
    | aborted last => rfl
    | answered answer after =>
      rw [taken] at kept
      simp only [inductionHypothesis after kept]

end Uses

end World
end KernelLog
