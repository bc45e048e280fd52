import KernelLog.Proofs.Configurations
import KernelLog.Proofs.LoggerLives
import KernelLog.Proofs.NestedCalls

/-!
# What a logger remembers about its main device

A logger that is asked whether its main device can be written to finds it out once
and remembers the answer. Nothing else in the process looks at what is remembered:
`World.revised` is a world in which the loggers remember something else, and every
step but the question itself goes there as it would have gone.

That nothing looks at it also tells that nothing changes it. A step that goes in the
same way under every revision goes so under the one that revises nothing
(`revised_self`), so a logger remembers after the step what it did before. Between
two questions to a logger anything may happen; the first one settles the answers.
-/

namespace KernelLog

/-- A logger that remembers something else about its main device. -/
def Logger.revised (revise : Option Bool → Option Bool) (logger : Logger) : Logger :=
  { logger with mainWritable := revise logger.mainWritable }

/-- The world in which the loggers remember something else about their main devices, and in which
only some of the requests to open a device are on record. -/
def World.revised (revise : Numbered (Option Bool → Option Bool)) (kept : Opening → Bool)
    (world : World) : World :=
  { world with
    loggers := fun id => (world.loggers id).revised (revise id)
    openings := world.openings.filter kept }

/-- What a step leads to, in such a world. -/
def Outcome.revised (revise : Numbered (Option Bool → Option Bool)) (kept : Opening → Bool) :
    Outcome → Outcome
  | .answered answer after => .answered answer (after.revised revise kept)
  | .aborted last => .aborted (last.revised revise kept)

namespace World

section Revised

variable (revise : Numbered (Option Bool → Option Bool)) (kept : Opening → Bool)
variable (id : Nat) (world : World)

/-- A logger is replaced by one that remembers something else, too. -/
theorem setLogger_revised (logger : Logger) :
    (world.revised revise kept).setLogger id (logger.revised (revise id)) =
      (world.setLogger id logger).revised revise kept := by
  have loggers : Numbered.set (fun other => (world.loggers other).revised (revise other)) id
      (logger.revised (revise id)) =
      fun other => (world.loggers.set id logger other).revised (revise other) := by
    funext other
    by_cases same : other = id
    · subst same
      simp only [Numbered.set_same]
    · simp only [Numbered.set_other _ _ _ _ same]
  simp only [setLogger, revised, loggers]

/-- A logger is given a target in the same way, whatever it remembers. -/
theorem boundTo_revised (target : Target) (host : Host) :
    (world.revised revise kept).boundTo id target host =
      (world.boundTo id target host).revised revise kept :=
  congrArg (fun world => { world with host := host })
    (setLogger_revised revise kept id world ((world.loggers id).withDispatch (.chosen target)))

variable {kept} (devices : ∀ id channel, kept (.device id channel) = true)
include devices

/-- A logger gets its target in the same way. -/
theorem obtain_revised :
    (world.revised revise kept).obtain emit id = (world.obtain emit id).revised revise kept := by
  cases dispatch : (world.loggers id).dispatch with
  | unopened =>
    have waiting : ((world.revised revise kept).loggers id).dispatch = .unopened := dispatch
    let requested : List Opening :=
      [.device id .main, .device id .radio, .device id .events, .device id .system]
    have noted : (world.openings ++ requested).filter kept =
        world.openings.filter kept ++ requested := by
      simp [requested, devices]
    let attempts := (world.loggers id).tryOpen world.host.files
    have bound := boundTo_revised revise kept id world (Logger.targetOf attempts) world.host
    have opened : (world.revised revise kept).obtain emit id =
        { (world.revised revise kept).boundTo id (Logger.targetOf attempts) world.host with
          facade := (attempts.reports (world.loggers id).config.deviceDir).foldl Facade.noting
            world.facade
          openings := world.openings.filter kept ++ requested } :=
      obtain_of_unopened id _ waiting
    rw [opened, bound, ← noted, obtain_of_unopened id world dispatch]
    rfl
  | opening =>
    have within : ((world.revised revise kept).loggers id).dispatch = .opening := dispatch
    simp only [obtain, dispatch, within]
  | chosen target =>
    rw [obtain_of_chosen world id target emit dispatch]
    exact obtain_of_chosen _ id target emit dispatch

/-- A frame is sent in the same way, with the same answer. -/
theorem send_revised (frame : Frame) :
    (world.revised revise kept).send emit id frame =
      ((world.send emit id frame).1, (world.send emit id frame).2.revised revise kept) := by
  rw [send, obtain_revised revise id world devices, send, deliver, deliver]
  have same : (((world.obtain emit id).revised revise kept).loggers id).dispatch =
      ((world.obtain emit id).loggers id).dispatch := rfl
  rw [same]
  split
  · exact congrArg _ (boundTo_revised revise kept id _ _ _)
  · rfl
  · rfl

/-- So is the question whether writes can succeed. -/
theorem isAvailable_revised :
    (world.revised revise kept).isAvailable emit id =
      ((world.isAvailable emit id).1, (world.isAvailable emit id).2.revised revise kept) := by
  have same : (((world.obtain emit id).revised revise kept).loggers id).dispatch =
      ((world.obtain emit id).loggers id).dispatch := rfl
  simp only [isAvailable, obtain_revised revise id world devices, same]
  split <;> rfl

/-- A message goes over a bridge in the same way. -/
theorem forward_revised (bridge : Bridge) (message : Message) :
    (world.revised revise kept).forward emit bridge message =
      (world.forward emit bridge message).revised revise kept := by
  simp only [forward, send_revised revise _ world devices]
  split <;> rfl

/-- The facade takes a message in the same way. -/
theorem emit_revised (message : Message) :
    emit message (world.revised revise kept) = (emit message world).revised revise kept := by
  have forwarded : ∀ bridge, calling emit bridge message (world.revised revise kept) =
      (calling emit bridge message world).revised revise kept := by
    intro bridge
    simp only [calling, send_revised revise _ world devices]
  have same : (world.revised revise kept).facade = world.facade := rfl
  rw [emit_discreet.emit_eq]
  simp only [handing, same, forwarded]
  split
  · split
    · rfl
    · rfl
    · split <;> rfl
  · rfl

/-- What is done with a logger is done in the same way, but for the question whether the main device
can be written to. -/
theorem operate_revised (operation : Operation) (other : operation ≠ .isMainWritable) :
    (world.revised revise kept).operate id operation =
      (world.operate id operation).revised revise kept := by
  cases operation with
  | send call | failAssertion condition tag message =>
    simp only [operate, send_revised revise id world devices]
    rfl
  | isAvailable =>
    simp only [operate, isAvailable_revised revise id world devices]
    rfl
  | isMainWritable => exact (other rfl).elim
  | isInitialized | isLoggable _ _ | config | describe => rfl

variable (unmade : ∀ id, world.count ≤ id → revise id none = none)
include unmade

omit devices in
/-- A logger of which nothing is remembered is added in the same way. -/
theorem addLogger_revised (logger : Logger) (unasked : logger.mainWritable = none) :
    (world.revised revise kept).addLogger logger =
      ((world.addLogger logger).1, (world.addLogger logger).2.revised revise kept) := by
  have same : logger.revised (revise world.count) = logger := by
    rw [Logger.revised, unasked, unmade _ (Nat.le_refl _), ← unasked]
  have added := setLogger_revised revise kept world.count world logger
  rw [same] at added
  exact congrArg (fun world' => (world.count, { world' with count := world.count + 1 })) added

omit devices in
/-- A logger is made in the same way. -/
theorem create_revised (config : Config) (binding : Binding) :
    (world.revised revise kept).create config binding =
      ((world.create config binding).1, (world.create config binding).2.revised revise kept) := by
  cases binding with
  | devices | nothing | memory | sharedMemory number =>
    exact addLogger_revised revise world unmade _ rfl
  | custom writer =>
    let supplied : World := { world with host :=
      { world.host with customs := world.host.customs.set world.count writer } }
    let logger := Logger.withTarget config (.custom world.count)
    exact addLogger_revised revise supplied unmade logger rfl

/-- The logger that a step uses is the same, and it is made in the same way if need be. -/
theorem refer_revised (on : LoggerRef) :
    (world.revised revise kept).refer on =
      ((world.refer on).1, (world.refer on).2.revised revise kept) := by
  cases on with
  | numbered id => rfl
  | shared =>
    have same : (world.revised revise kept).shared = world.shared := rfl
    have found : (world.revised revise kept).environment.config
        (world.revised revise kept).host.files.read =
      world.environment.config world.host.files.read := rfl
    have words : (world.revised revise kept).wording = world.wording := rfl
    simp only [refer, sharedLogger, same, found, words]
    split
    · rfl
    · split
      · rw [addLogger_revised revise world unmade _ rfl]
        rfl
      · rename_i cause refused
        let warned := emit (Message.configRefused world.wording cause) world
        have stillUnmade : ∀ id, warned.count ≤ id → revise id none = none := fun id beyond =>
          unmade id (Nat.le_trans (emit_growing _ world).count_le beyond)
        rw [emit_revised revise world devices, addLogger_revised revise _ stillUnmade _ rfl]
        rfl

/-- A step leads to the same, unless it asks whether a main device can be written to. -/
theorem step_revised (step : Step) (other : ∀ on, step ≠ .operate on .isMainWritable) :
    (world.revised revise kept).step step = (world.step step).revised revise kept := by
  have operated : ∀ on operation, operation ≠ .isMainWritable →
      (world.revised revise kept).step (.operate on operation) =
        (world.step (.operate on operation)).revised revise kept := by
    intro on operation different
    simp only [World.step, refer_revised revise world devices unmade,
      operate_revised revise _ _ devices operation different]
  cases step with
  | create config binding =>
    simp only [World.step, create_revised revise world unmade]
    rfl
  | operate on operation =>
    exact operated on operation fun same => other on (congrArg (Step.operate on) same)
  | assert holds condition tag message =>
    cases holds with
    | true => rfl
    | false => exact operated .shared (.failAssertion (some condition) tag message) (by simp)
  | makeBridge on tagMode channel filter =>
    simp only [World.step, makeBridge, refer_revised revise world devices unmade]
    rfl
  | bridgeMessage bridge message =>
    simp only [World.step, forward_revised revise world devices]
    rfl
  | install on tagMode channel filter =>
    have same : ((world.refer on).2.revised revise kept).facade = (world.refer on).2.facade := rfl
    simp only [World.step, makeBridge, refer_revised revise world devices unmade, World.install,
      same]
    split <;> rfl
  | log message =>
    simp only [World.step, emit_revised revise world devices]
    rfl
  | change _ _ | deposit _ _ | clear _ => rfl

end Revised

/-! ## What is remembered -/

section Remembered

variable (id : Nat) (world : World)

/-- A world is itself if one of its loggers remembers what it does. -/
theorem revised_self :
    world.revised (Numbered.set (fun _ remembered => remembered) id fun _ =>
      (world.loggers id).mainWritable) (fun _ => true) = world := by
  have loggers : (fun other => (world.loggers other).revised
      (Numbered.set (fun _ remembered => remembered) id
        (fun _ => (world.loggers id).mainWritable) other)) = world.loggers := by
    funext other
    by_cases same : other = id
    · subst same
      rw [Numbered.set_same]
      rfl
    · rw [Numbered.set_other _ _ _ _ same]
      rfl
  rw [revised, loggers, List.filter_eq_self.mpr fun _ _ => rfl]

/-- What goes the same way whatever the loggers remember leaves them what they remember. -/
theorem remembered_of_commutes (move : World → World) (known : id < world.count)
    (commutes : ∀ revise kept, (∀ id channel, kept (.device id channel) = true) →
      (∀ id, world.count ≤ id → revise id none = none) →
      move (world.revised revise kept) = (move world).revised revise kept) :
    ((move world).loggers id).mainWritable = (world.loggers id).mainWritable := by
  have moved := commutes (Numbered.set (fun _ remembered => remembered) id fun _ =>
    (world.loggers id).mainWritable) (fun _ => true) (fun _ _ => rfl) fun other unmade => by
      rw [Numbered.set_other _ _ _ _ (Nat.ne_of_gt (Nat.lt_of_lt_of_le known unmade))]
  rw [revised_self] at moved
  rw [moved]
  simp only [revised, Numbered.set_same, Logger.revised]

/-- The answer about the main device is the one that is remembered, or else what is found at this
moment. The logger remembers it, and nothing else changes about the loggers. -/
theorem isMainWritable_eq :
    let answer := (world.loggers id).mainWritable.getD
      ((world.loggers id).config.opens world.host.files .main)
    (world.isMainWritable id).1 = answer ∧
      (world.isMainWritable id).2.loggers =
        world.loggers.set id { world.loggers id with mainWritable := some answer } := by
  simp only [World.isMainWritable]
  cases remembered : (world.loggers id).mainWritable with
  | none => exact ⟨rfl, rfl⟩
  | some answer =>
    have same : { world.loggers id with mainWritable := some answer } = world.loggers id := by
      rw [← remembered]
    simp only [Option.getD_some, same, Numbered.set_self, and_self]

/-- A logger that there is remembers what it did after another one is made for the process. -/
theorem refer_remembers (on : LoggerRef) (known : id < world.count) :
    ((world.refer on).2.loggers id).mainWritable = (world.loggers id).mainWritable :=
  remembered_of_commutes id world (fun world => (world.refer on).2) known
    fun revise _ devices unmade =>
      congrArg Prod.snd (refer_revised revise world devices unmade on)

/-- It remembers what it did after every step that does not ask it about its main device. -/
theorem step_remembers (step : Step) (known : id < world.count)
    (elsewhere : ∀ on, step = .operate on .isMainWritable → (world.refer on).1 ≠ id) :
    ((world.step step).world.loggers id).mainWritable = (world.loggers id).mainWritable := by
  by_cases asks : ∃ on, step = .operate on .isMainWritable
  · obtain ⟨on, rfl⟩ := asks
    have other : id ≠ (world.refer on).1 := (elsewhere on rfl).symm
    simp only [World.step, operate, Outcome.world, (isMainWritable_eq _ _).2,
      Numbered.set_other _ _ _ _ other]
    exact refer_remembers id world on known
  · have silent : ∀ on, step ≠ .operate on .isMainWritable := fun on same => asks ⟨on, same⟩
    refine remembered_of_commutes id world (fun world => (world.step step).world) known
      fun revise kept devices unmade => ?_
    simp only [step_revised revise world devices unmade step silent]
    cases world.step step <;> rfl

end Remembered

/-- No step of a run asks a logger whether its main device can be written to. -/
def Unasked (id : Nat) (steps : List Step) (world : World) : Prop :=
  ∀ earlier on later, steps = earlier ++ .operate on .isMainWritable :: later →
    ((run earlier world).world.refer on).1 ≠ id

section Runs

variable (id : Nat) (world : World)

/-- A run none of whose steps is such a question asks no logger. -/
theorem Unasked.of_silent (steps : List Step)
    (silent : ∀ step ∈ steps, ∀ on, step ≠ .operate on .isMainWritable) :
    world.Unasked id steps := by
  intro earlier on later same
  have member : Step.operate on .isMainWritable ∈ steps := by
    rw [same]
    exact List.mem_append_right earlier List.mem_cons_self
  exact (silent _ member on rfl).elim

/-- A logger that is not asked about its main device remembers what it did. -/
theorem Unasked.run (steps : List Step) (known : id < world.count)
    (unasked : world.Unasked id steps) :
    ((run steps world).world.loggers id).mainWritable = (world.loggers id).mainWritable := by
  induction steps generalizing world with
  | nil => rfl
  | cons step rest inductionHypothesis =>
    have kept := step_remembers id world step known fun on same =>
      unasked [] on rest (congrArg (· :: rest) same)
    have stillKnown : id < (world.step step).world.count :=
      Nat.lt_of_lt_of_le known (step_grows world step).count_le
    simp only [World.run]
    cases taken : world.step step with
    | aborted last => rwa [taken] at kept
    | answered answer after =>
      rw [taken] at kept stillKnown
      refine (inductionHypothesis after stillKnown fun earlier on later same => ?_).trans kept
      have there := unasked (step :: earlier) on later (congrArg (step :: ·) same)
      simpa only [World.run, taken] using there

/-- A step that uses a logger that there is finds it, and nothing is made. -/
theorem refer_known (on : LoggerRef) (known : (world.refer on).1 < world.count) :
    (world.refer on).2 = world := by
  cases on with
  | numbered id => rfl
  | shared =>
    simp only [refer, sharedLogger] at known ⊢
    cases made : world.shared with
    | some id => rfl
    | none =>
      simp only [made] at known
      cases found : world.environment.config world.host.files.read with
      | ok config =>
        simp only [found] at known
        exact (Nat.lt_irrefl _ known).elim
      | error cause =>
        simp only [found] at known
        have grown := (emit_growing (Message.configRefused world.wording cause) world).count_le
        exact (Nat.lt_irrefl _ (Nat.lt_of_le_of_lt grown known)).elim

/-- A logger that is asked about its main device answers what it remembers, or else what is found at
this moment, and remembers it. -/
theorem step_asked (on : LoggerRef) (known : id < world.count) (same : (world.refer on).1 = id) :
    let answer := (world.loggers id).mainWritable.getD
      ((world.loggers id).config.opens world.host.files .main)
    ∃ after, world.step (.operate on .isMainWritable) = .answered (.flag answer) after ∧
      (after.loggers id).mainWritable = some answer := by
  intro answer
  have there : (world.refer on).2 = world := refer_known world on (same.symm ▸ known)
  obtain ⟨answered, loggers⟩ := isMainWritable_eq id world
  refine ⟨(world.isMainWritable id).2, ?_, ?_⟩
  · simp only [World.step, operate, there, same, answered, answer]
  · rw [loggers, Numbered.set_same]

/-- A logger that has answered remembers its answer through every step. -/
theorem step_keeps_answer (step : Step) (answer : Bool) (known : id < world.count)
    (answered : (world.loggers id).mainWritable = some answer) :
    ((world.step step).world.loggers id).mainWritable = some answer := by
  by_cases asked : ∃ on, step = .operate on .isMainWritable ∧ (world.refer on).1 = id
  · obtain ⟨on, rfl, same⟩ := asked
    obtain ⟨after, taken, remembered⟩ := step_asked id world on known same
    rw [answered] at remembered
    rw [taken]
    exact remembered
  · rw [step_remembers id world step known fun on asks same => asked ⟨on, asks, same⟩, answered]

/-- It remembers its answer through every run, so it gives it whenever it is asked again. -/
theorem run_keeps_answer (steps : List Step) (answer : Bool) (known : id < world.count)
    (answered : (world.loggers id).mainWritable = some answer) :
    ((run steps world).world.loggers id).mainWritable = some answer := by
  have kept := run_keeps
    (fun now => id < now.count ∧ (now.loggers id).mainWritable = some answer) steps
    (fun step _ now held => ⟨Nat.lt_of_lt_of_le held.1 (step_grows now step).count_le,
      step_keeps_answer id now step answer held.1 held.2⟩)
    world ⟨known, answered⟩
  exact kept.2

end Runs

/-- The first question about the main device of a logger that there is settles the answer to all of
them, whatever is done before it and between them. -/
theorem answers_once (id : Nat) (world : World) (known : id < world.count) (before : List Step)
    (unasked : world.Unasked id before) :
    let moment := (run before world).world
    let found := (world.loggers id).mainWritable.getD
      ((world.loggers id).config.opens moment.host.files .main)
    ∀ on, (moment.refer on).1 = id →
      ∃ after, moment.step (.operate on .isMainWritable) = .answered (.flag found) after ∧
        ∀ between again, let now := (run between after).world
          (now.refer again).1 = id →
            ∃ last, now.step (.operate again .isMainWritable) = .answered (.flag found) last := by
  intro moment found on same
  have grown := run_grows world before
  have stillKnown : id < moment.count := Nat.lt_of_lt_of_le known grown.count_le
  obtain ⟨after, taken, remembered⟩ := step_asked id moment on stillKnown same
  rw [unasked.run id world before known, grown.config_eq id known] at taken remembered
  refine ⟨after, taken, ?_⟩
  intro between again now sameAgain
  have afterKnown : id < after.count := by
    have stepped := (step_grows moment (.operate on .isMainWritable)).count_le
    rw [taken] at stepped
    exact Nat.lt_of_lt_of_le stillKnown stepped
  have nowKnown : id < now.count :=
    Nat.lt_of_lt_of_le afterKnown (run_grows after between).count_le
  obtain ⟨last, takenAgain, _⟩ := step_asked id now again nowKnown sameAgain
  rw [run_keeps_answer id after between found afterKnown remembered, Option.getD_some] at takenAgain
  exact ⟨last, takenAgain⟩

end World

end KernelLog
