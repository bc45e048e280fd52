import KernelLog.Proofs.Runs

/-!
# Loggers keep their configuration

Loggers are made and used, and nothing else happens to their configurations: a
logger that has been made keeps its number and the configuration it was made with
through every step of the process, also when messages come back to it through a
bridge. The process keeps the logger that it has once it has one, and the texts of its
reader of documents. `Grows` is that relation of two worlds, and every step goes along
with it.
-/

namespace KernelLog.World

/-- A later world has all the loggers of an earlier one, with the configurations that they had, and
the same logger of the process if there was one. -/
structure Grows (before after : World) : Prop where
  count_le : before.count ≤ after.count
  config_eq : ∀ id < before.count, (after.loggers id).config = (before.loggers id).config
  shared_eq : ∀ id, before.shared = some id → after.shared = some id
  wording_eq : after.wording = before.wording

/-- A facade through which no message takes loggers away or changes their configurations. -/
def Growing (emit : Emit) : Prop := ∀ message world, World.Grows world (emit message world)

/-- Where no logger changes, none is lost. -/
theorem Grows.of_loggers {before after : World} (count : after.count = before.count)
    (loggers : after.loggers = before.loggers) (shared : after.shared = before.shared)
    (wording : after.wording = before.wording) : before.Grows after where
  count_le := Nat.le_of_eq count.symm
  config_eq := by
    intro id _
    rw [loggers]
  shared_eq := fun _ made => shared.trans made
  wording_eq := wording

/-- Where one logger changes in all but its configuration, none is lost. -/
theorem Grows.of_set {before after : World} (id : Nat) (logger : Logger)
    (count : after.count = before.count) (loggers : after.loggers = before.loggers.set id logger)
    (same : logger.config = (before.loggers id).config) (shared : after.shared = before.shared)
    (wording : after.wording = before.wording) : before.Grows after where
  count_le := Nat.le_of_eq count.symm
  config_eq := by
    intro other _
    rw [loggers]
    by_cases equal : other = id
    · subst equal
      rw [Numbered.set_same, same]
    · rw [Numbered.set_other _ _ _ _ equal]
  shared_eq := fun _ made => shared.trans made
  wording_eq := wording

/-- A world has all its loggers. -/
theorem Grows.refl (world : World) : world.Grows world := .of_loggers rfl rfl rfl rfl

/-- What a world still has after two others, the last one has. -/
theorem Grows.trans {first second third : World} (former : first.Grows second)
    (latter : second.Grows third) : first.Grows third where
  count_le := Nat.le_trans former.count_le latter.count_le
  config_eq := by
    intro id known
    have stillKnown : id < second.count := Nat.lt_of_lt_of_le known former.count_le
    rw [latter.config_eq id stillKnown, former.config_eq id known]
  shared_eq := fun id made => latter.shared_eq id (former.shared_eq id made)
  wording_eq := latter.wording_eq.trans former.wording_eq

/-- A process that had no logger of its own has lost nothing when it gets one. -/
theorem Grows.of_unmade {before after : World} (grown : before.Grows after)
    (unmade : before.shared = none) (id : Nat) : before.Grows { after with shared := some id } where
  count_le := grown.count_le
  config_eq := grown.config_eq
  shared_eq := by
    intro other made
    rw [unmade] at made
    cases made
  wording_eq := grown.wording_eq

section Steps

variable (id : Nat) (world : World)

/-- A new logger takes a number that none has. -/
theorem addLogger_grows (logger : Logger) : world.Grows (world.addLogger logger).2 where
  count_le := Nat.le_succ _
  config_eq := by
    intro other known
    simp only [addLogger, setLogger, Numbered.set_other _ _ _ _ (Nat.ne_of_lt known)]
  shared_eq := fun _ made => made
  wording_eq := rfl

/-- Making a logger changes none of those that there are. -/
theorem create_grows (config : Config) (binding : Binding) :
    world.Grows (world.create config binding).2 := by
  cases binding with
  | devices | nothing | memory | sharedMemory number => exact addLogger_grows world _
  | custom writer =>
    have supplied : world.Grows { world with host :=
        { world.host with customs := world.host.customs.set world.count writer } } :=
      .of_loggers rfl rfl rfl rfl
    exact supplied.trans (addLogger_grows _ _)

variable {emit : Emit} (growing : Growing emit)
include growing

/-- Handing over several messages takes no logger away. -/
theorem emit_all_grows (messages : List Message) :
    world.Grows (messages.foldl (fun world message => emit message world) world) := by
  induction messages generalizing world with
  | nil => exact .refl world
  | cons message rest inductionHypothesis =>
    exact (growing message world).trans (inductionHypothesis (emit message world))

/-- Opening the devices gives a logger its target, and no logger another configuration. -/
theorem obtain_grows : world.Grows (world.obtain emit id) := by
  simp only [obtain]
  split
  · let opening := world.setLogger id ((world.loggers id).withDispatch .opening)
    have tried : world.Grows (Attempts.gather (openDevice id) opening).2 :=
      .of_set id ((world.loggers id).withDispatch .opening) rfl rfl rfl rfl rfl
    have reported := emit_all_grows (Attempts.gather (openDevice id) opening).2 growing
      ((Attempts.gather (openDevice id) opening).1.reports (world.loggers id).config.deviceDir)
    exact tried.trans (reported.trans (.of_set id _ rfl rfl rfl rfl rfl))
  · exact .refl world
  · exact .refl world

/-- Writing a frame gives no logger another configuration. -/
theorem send_grows (frame : Frame) : world.Grows (world.send emit id frame).2 := by
  refine (obtain_grows id world growing).trans ?_
  simp only [send, deliver]
  split
  · exact .of_set id _ rfl rfl rfl rfl rfl
  · exact .of_loggers rfl rfl rfl rfl
  · exact .of_loggers rfl rfl rfl rfl

/-- Nor does a message that goes over a bridge. -/
theorem forward_grows (bridge : Bridge) (message : Message) :
    world.Grows (world.forward emit bridge message) := by
  unfold forward
  split
  · exact send_grows bridge.logger world growing (bridge.frame message)
  · exact .refl world

omit growing

/-- Nor does the facade, however deep messages are nested. Induct over the depth: a message that is
forwarded makes its reports one level further down. -/
theorem log_growing (depth : Nat) : Growing (log depth) := by
  induction depth with
  | zero => exact fun message world => .of_loggers rfl rfl rfl rfl
  | succ depth inductionHypothesis =>
    intro message world
    simp only [log]
    split
    · split
      · exact .refl world
      · exact .of_loggers rfl rfl rfl rfl
      · exact forward_grows world inductionHypothesis _ message
    · exact .refl world

/-- The facade of the process gives no logger another configuration. -/
theorem emit_growing : Growing World.emit := log_growing nesting

/-- Whatever is done with a logger, all loggers keep their configurations. -/
theorem operate_grows (operation : Operation) :
    world.Grows (world.operate id operation).world := by
  cases operation with
  | send call => exact send_grows id world emit_growing call.frame
  | failAssertion condition tag message => exact send_grows id world emit_growing _
  | isAvailable =>
    refine (obtain_grows id world emit_growing).trans ?_
    simp only [operate, isAvailable, Outcome.world]
    split <;> exact .of_loggers rfl rfl rfl rfl
  | isMainWritable =>
    simp only [operate, isMainWritable, Outcome.world]
    split
    · exact .refl world
    · exact .of_set id _ rfl rfl rfl rfl rfl
  | isInitialized | isLoggable _ _ | config | describe => exact .refl world

/-- Making the logger of the process changes none of those that there are. -/
theorem refer_grows (on : LoggerRef) : world.Grows (world.refer on).2 := by
  cases on with
  | numbered id => exact .refl world
  | shared =>
    simp only [refer, sharedLogger]
    cases unmade : world.shared with
    | some id => exact .refl world
    | none =>
      refine Grows.of_unmade ?_ unmade _
      split
      · exact addLogger_grows world _
      · exact (emit_growing _ world).trans (addLogger_grows _ _)

/-- No step takes a logger away or gives one another configuration. -/
theorem step_grows (step : Step) : world.Grows (world.step step).world := by
  cases step with
  | create config binding => exact create_grows world config binding
  | operate on operation => exact (refer_grows world on).trans (operate_grows _ _ operation)
  | assert holds condition tag message =>
    cases holds with
    | true => exact .refl world
    | false => exact (refer_grows world .shared).trans (operate_grows _ _ (.failAssertion _ _ _))
  | makeBridge on tagMode channel filter => exact refer_grows world on
  | bridgeMessage bridge message => exact forward_grows world emit_growing bridge message
  | install on tagMode channel filter =>
    refine (refer_grows world on).trans ?_
    simp only [World.step, makeBridge, World.install, Outcome.world]
    split <;> exact .of_loggers rfl rfl rfl rfl
  | log message => exact emit_growing message world
  | change _ _ | deposit _ _ | clear _ => exact .of_loggers rfl rfl rfl rfl

/-- No run takes a logger away or gives one another configuration. -/
theorem run_grows (steps : List Step) : world.Grows (run steps world).world :=
  run_keeps world.Grows steps (fun step _ now grown => grown.trans (step_grows now step)) world
    (.refl world)

end Steps

end KernelLog.World
