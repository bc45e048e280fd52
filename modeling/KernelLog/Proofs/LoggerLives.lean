import KernelLog.Proofs.ChosenTargets
import KernelLog.Proofs.Runs

/-!
# A logger's target is chosen once

A logger of the devices waits until something needs its target: a write, or the
question whether writes can succeed. At that moment, and never again, it requests
its devices, and what it finds then decides for good. Later changes of the files do
not reach the choice.

The two states are `Waiting` and `Serving`. What keeps the first, what leads to the
second and what keeps that is proved for one step each and carried over runs of any
length, with arbitrary changes of the files between the steps.
-/

namespace KernelLog

/-! ## What happens to a logger -/

/-- Whether an operation is one for which a logger has to have its target. -/
def Operation.needsTarget : Operation → Bool
  | .send _ | .isAvailable | .failAssertion _ _ _ => true
  | .isInitialized | .isMainWritable | .isLoggable _ _ | .config | .describe => false

/-- The operations that need the target are the writes, the question whether writes can succeed, and
the failed assertion. -/
theorem Operation.cases_of_needs (operation : Operation) (needs : operation.needsTarget = true) :
    (∃ call, operation = .send call) ∨ operation = .isAvailable ∨
      ∃ condition tag message, operation = .failAssertion condition tag message := by
  cases operation with
  | send call => exact .inl ⟨call, rfl⟩
  | isAvailable => exact .inr (.inl rfl)
  | failAssertion condition tag message => exact .inr (.inr ⟨condition, tag, message, rfl⟩)
  | isInitialized | isMainWritable | isLoggable _ _ | config | describe => cases needs

/-- What happens in the life of a logger: something is done with it, or files change. -/
inductive Happening
  | operation (operation : Operation)
  | change (place : Location) (change : FileSystem.Change)

namespace Happening

/-- The step of the process that something happening to a logger is. -/
def step (id : Nat) : Happening → Step
  | operation done => .operate (.numbered id) done
  | change place changed => .change place changed

/-- Whether a logger has to have its target for what happens. -/
def needsTarget : Happening → Bool
  | operation done => done.needsTarget
  | change _ _ => false

end Happening

namespace World

/-- The world after what has happened to a logger. -/
def after (id : Nat) (history : List Happening) (world : World) : World :=
  (run (history.map (Happening.step id)) world).world

/-- The requests for devices to write to, with the number of the logger. -/
def requests (world : World) : List (Nat × Channel) :=
  world.openings.filterMap fun opening =>
    match opening with
    | .device logger channel => some (logger, channel)
    | .probe _ => none

/-- The requests of one logger for all its devices, in the order in which it makes them. -/
def requestsOf (id : Nat) : List (Nat × Channel) :=
  [(id, .main), (id, .radio), (id, .events), (id, .system)]

/-- A logger that has not needed its target yet. -/
structure Waiting (config : Config) (requested : List (Nat × Channel)) (id : Nat)
    (world : World) : Prop where
  configured : (world.loggers id).config = config
  waiting : (world.loggers id).dispatch = .unopened
  requests_eq : world.requests = requested

/-- A logger that has the target of a choice, moved on or not. -/
structure Serving (config : Config) (choice : Target) (requested : List (Nat × Channel)) (id : Nat)
    (world : World) : Prop where
  configured : (world.loggers id).config = config
  serving : ∃ target, (world.loggers id).dispatch = .chosen target ∧ target.rewound = choice
  requests_eq : world.requests = requested

/-- What a logger answers when it has or gets a target that takes frames, or one that does not. In
the second case nothing that is done with the logger reaches a file. -/
structure Answers (id : Nat) (available : Bool) (world : World) : Prop where
  isAvailable : ∃ after, world.operate id .isAvailable = .answered (.flag available) after
  refuses_iff : ∀ call, ∃ result after,
    world.operate id (.send call) = .answered (.sent result) after ∧
      (result = .error .unavailable ↔ available = false)
  untouched : available = false → ∀ operation,
    (world.operate id operation).world.host.files = world.host.files

/-- A logger that has the target of a choice has a target. -/
theorem Serving.bound {config : Config} {choice : Target} {requested : List (Nat × Channel)}
    {id : Nat} {world : World} (held : world.Serving config choice requested id) :
    ∃ target, (world.loggers id).dispatch = .chosen target := by
  obtain ⟨target, bound, _⟩ := held.serving
  exact ⟨target, bound⟩

section Steps

variable {config : Config} {choice : Target} {requested : List (Nat × Channel)}
variable (id : Nat) (world : World)

/-- Asking whether the main device can be written to changes neither configuration nor target, and
is no request to write. -/
theorem isMainWritable_keeps :
    let asked := (world.isMainWritable id).2
    (asked.loggers id).config = (world.loggers id).config ∧
      (asked.loggers id).dispatch = (world.loggers id).dispatch ∧
      asked.requests = world.requests ∧ asked.host = world.host := by
  simp only [World.isMainWritable]
  cases (world.loggers id).mainWritable with
  | some answer => exact ⟨rfl, rfl, rfl, rfl⟩
  | none => simp [setLogger, requests]

/-- The process goes on after everything that does not need a logger's target. -/
theorem step_quiet_survived (happening : Happening) (quiet : happening.needsTarget = false) :
    (world.step (happening.step id)).Survived := by
  cases happening with
  | change place changed => trivial
  | operation done =>
    cases done with
    | failAssertion condition tag message => cases quiet
    | _ => trivial

/-- A logger keeps waiting through everything that does not need its target. -/
theorem Waiting.step_quiet (happening : Happening) (quiet : happening.needsTarget = false)
    (held : world.Waiting config requested id) :
    (world.step (happening.step id)).world.Waiting config requested id := by
  cases happening with
  | change place changed => exact ⟨held.configured, held.waiting, held.requests_eq⟩
  | operation done =>
    cases done with
    | isMainWritable =>
      obtain ⟨sameConfig, sameDispatch, sameRequests, _⟩ := isMainWritable_keeps id world
      exact ⟨sameConfig.trans held.configured, sameDispatch.trans held.waiting,
        sameRequests.trans held.requests_eq⟩
    | isInitialized | isLoggable _ _ | config | describe => exact held
    | send _ | isAvailable | failAssertion _ _ _ => cases quiet

/-- Writing a frame keeps the choice: only offsets move. -/
theorem Serving.send (frame : Frame) (held : world.Serving config choice requested id) :
    (world.send emit id frame).2.Serving config choice requested id := by
  obtain ⟨target, bound, same⟩ := held.serving
  rw [send_of_chosen world id target emit frame bound]
  refine ⟨?_, ⟨(world.host.write target frame).target, ?_, ?_⟩, held.requests_eq⟩
  · simpa only [boundTo_logger, Logger.withDispatch] using held.configured
  · simp only [boundTo_logger, Logger.withDispatch]
  · rw [Host.rewound_write, same]

/-- Whatever happens to a logger that has its target, it keeps the choice and requests nothing. -/
theorem Serving.step (happening : Happening) (held : world.Serving config choice requested id) :
    (world.step (happening.step id)).world.Serving config choice requested id := by
  cases happening with
  | change place changed => exact ⟨held.configured, held.serving, held.requests_eq⟩
  | operation done =>
    cases done with
    | send call => exact held.send id world call.frame
    | failAssertion condition tag message => exact held.send id world _
    | isAvailable =>
      obtain ⟨target, bound, _⟩ := held.serving
      have asked : (world.operate id .isAvailable).world = world := by
        simp only [operate, World.isAvailable, obtain_of_chosen world id target emit bound, bound,
          Outcome.world]
      simpa only [Happening.step, World.step, refer, asked] using held
    | isMainWritable =>
      obtain ⟨sameConfig, sameDispatch, sameRequests, _⟩ := isMainWritable_keeps id world
      refine ⟨sameConfig.trans held.configured, ?_, sameRequests.trans held.requests_eq⟩
      obtain ⟨target, bound, same⟩ := held.serving
      exact ⟨target, sameDispatch.trans bound, same⟩
    | isInitialized | isLoggable _ _ | config | describe => exact held

/-- A logger that waits and now needs its target gets the one that its devices lead to in the file
system of this moment. It requests all four, once; nothing is written. -/
theorem Waiting.obtain (held : world.Waiting config requested id) :
    (world.obtain emit id).Serving config
        (Logger.targetOf ((Logger.new config).tryOpen world.host.files))
        (requested ++ requestsOf id) id ∧
      (world.obtain emit id).host = world.host := by
  have opened := obtain_of_unopened id world held.waiting
  have attempts : (world.loggers id).tryOpen world.host.files =
      (Logger.new config).tryOpen world.host.files := by
    simp only [Logger.tryOpen, Logger.new, held.configured]
  rw [attempts] at opened
  rw [opened]
  refine ⟨⟨?_, ⟨Logger.targetOf ((Logger.new config).tryOpen world.host.files), ?_, ?_⟩, ?_⟩, rfl⟩
  · simpa only [boundTo_logger, Logger.withDispatch] using held.configured
  · simp only [boundTo_logger, Logger.withDispatch]
  · exact Logger.rewound_targetOf config world.host.files
  · rw [← held.requests_eq]
    simp [requests, requestsOf]

/-- An operation that needs the target first gets it, and then goes on as if the logger had had it
all along. -/
theorem operate_ready (operation : Operation) (needs : operation.needsTarget = true)
    (bound : ∃ target, ((world.obtain emit id).loggers id).dispatch = .chosen target) :
    world.operate id operation = (world.obtain emit id).operate id operation := by
  obtain ⟨target, bound⟩ := bound
  have again := obtain_of_chosen (world.obtain emit id) id target emit bound
  obtain ⟨call, rfl⟩ | rfl | ⟨condition, tag, message, rfl⟩ := operation.cases_of_needs needs
  · simp only [operate, World.send, again]
  · simp only [operate, World.isAvailable, again]
  · simp only [operate, World.send, again]

/-- What does not need the target does not write. -/
theorem operate_quiet (operation : Operation) (quiet : operation.needsTarget = false) :
    (world.operate id operation).world.host = world.host := by
  cases operation with
  | isMainWritable => exact (isMainWritable_keeps id world).2.2.2
  | isInitialized | isLoggable _ _ | config | describe => rfl
  | send _ | isAvailable | failAssertion _ _ _ => cases quiet

/-- Nothing that is done with a logger whose target is nothing reaches the host. -/
theorem operate_nothing (operation : Operation)
    (bound : (world.loggers id).dispatch = .chosen .nothing) :
    (world.operate id operation).world.host = world.host := by
  cases quiet : operation.needsTarget with
  | false => exact operate_quiet id world operation quiet
  | true =>
    have same := obtain_of_chosen world id .nothing emit bound
    have sent := fun frame => send_of_chosen world id .nothing emit frame bound
    obtain ⟨call, rfl⟩ | rfl | ⟨condition, tag, message, rfl⟩ := operation.cases_of_needs quiet
    · simp only [operate, sent]
      rfl
    · simp only [operate, World.isAvailable, same, bound]
      rfl
    · simp only [operate, sent]
      rfl

/-- A logger whose choice was nothing has nothing as its target. -/
theorem Serving.bound_nothing (held : world.Serving config .nothing requested id) :
    (world.loggers id).dispatch = .chosen .nothing := by
  obtain ⟨target, bound, same⟩ := held.serving
  cases target with
  | nothing => exact bound
  | devices opened => cases same
  | memory number => cases same
  | custom number => cases same

/-- What a logger with a target answers hangs on the file system of the choice alone. -/
theorem Serving.answers (moment : FileSystem)
    (held : world.Serving config (Logger.targetOf ((Logger.new config).tryOpen moment)) requested
      id) :
    world.Answers id (config.opensCore moment) := by
  obtain ⟨target, bound, same⟩ := held.serving
  have choice := Target.chosenFrom_of_rewound config moment target same
  refine ⟨⟨world, ?_⟩, fun call => ?_, fun failed operation => ?_⟩
  · simp only [operate, World.isAvailable, obtain_of_chosen world id target emit bound, bound,
      choice.isAvailable]
  · have sent := send_of_chosen world id target emit call.frame bound
    refine ⟨(world.host.write target call.frame).answer, (world.send emit id call.frame).2, ?_,
      choice.refuses_iff world.host call.frame⟩
    simp only [operate, sent]
  · rw [choice.nothing_iff.mpr failed] at bound
    rw [operate_nothing id world operation bound]

/-- What a waiting logger answers hangs on the file system of this moment. -/
theorem Waiting.answers (held : world.Waiting config requested id) :
    world.Answers id (config.opensCore world.host.files) := by
  obtain ⟨serving, sameHost⟩ := held.obtain id world
  have ready := serving.answers id _ world.host.files
  have begins := fun operation needs => operate_ready id world operation needs serving.bound
  refine ⟨?_, fun call => ?_, fun failed operation => ?_⟩
  · rw [begins .isAvailable rfl]
    exact ready.isAvailable
  · rw [begins (.send call) rfl]
    exact ready.refuses_iff call
  · cases quiet : operation.needsTarget with
    | false => rw [operate_quiet id world operation quiet]
    | true => rw [begins operation quiet, ready.untouched failed operation, sameHost]

/-! ## Whole lives -/

/-- A logger keeps waiting through any number of steps that do not need its target, and the process
survives them. -/
theorem Waiting.run_quiet (history : List Happening)
    (quiet : ∀ happening ∈ history, happening.needsTarget = false)
    (held : world.Waiting config requested id) :
    (run (history.map (Happening.step id)) world).aborted = false ∧
      (world.after id history).Waiting config requested id := by
  have survives : ∀ step ∈ history.map (Happening.step id), ∀ world : World,
      (world.step step).Survived :=
    List.forall_mem_map.mpr fun happening member world =>
      step_quiet_survived id world happening (quiet happening member)
  have kept : ∀ step ∈ history.map (Happening.step id), ∀ world : World,
      world.Waiting config requested id → (world.step step).world.Waiting config requested id :=
    List.forall_mem_map.mpr fun happening member world waiting =>
      waiting.step_quiet id world happening (quiet happening member)
  exact ⟨run_survived _ survives world, run_keeps _ _ kept world held⟩

/-- A logger that has its target keeps the choice through whatever happens. -/
theorem Serving.run (history : List Happening)
    (held : world.Serving config choice requested id) :
    (world.after id history).Serving config choice requested id :=
  run_keeps _ _ (List.forall_mem_map.mpr fun happening _ world serving =>
    serving.step id world happening) world held

/-- A logger without a target to write to spares the contents of all files, whatever happens. New
files come with contents of their own. -/
theorem Serving.step_spares (happening : Happening)
    (held : world.Serving config .nothing requested id) :
    world.host.files.contents <+: (world.step (happening.step id)).world.host.files.contents := by
  cases happening with
  | change place changed => exact FileSystem.contents_apply world.host.files place changed
  | operation done =>
    have bound := held.bound_nothing id world
    simp only [Happening.step, World.step, refer, operate_nothing id world done bound,
      List.prefix_rfl]

/-- A logger without a target to write to spares the contents of all files for ever. -/
theorem Serving.run_spares (history : List Happening)
    (held : world.Serving config .nothing requested id) :
    world.host.files.contents <+: (world.after id history).host.files.contents := by
  have kept := run_keeps
    (fun now => now.Serving config .nothing requested id ∧
      world.host.files.contents <+: now.host.files.contents)
    (history.map (Happening.step id))
    (List.forall_mem_map.mpr fun happening _ now so =>
      ⟨so.1.step id now happening,
        so.2.trans (so.1.step_spares id now happening)⟩)
    world ⟨held, List.prefix_rfl⟩
  exact kept.2

/-- A life that begins with an operation that needs the target goes as if the target had been there
from its start. -/
theorem after_ready (first : Operation) (later : List Happening) (needs : first.needsTarget = true)
    (bound : ∃ target, ((world.obtain emit id).loggers id).dispatch = .chosen target) :
    world.after id (.operation first :: later) =
      (world.obtain emit id).after id (.operation first :: later) := by
  simp only [after, List.map_cons, World.run, Happening.step, World.step, refer,
    operate_ready id world first needs bound]

end Steps

end World

open World

/-- A logger chooses its target once, in one moment of the file system, and stays with it.

Before anything needs the target, nothing is requested and the logger is not initialized, and what
it would answer hangs on the file system as it then is. The first operation that needs the target
requests the four devices, and from then on, whatever is done with the logger and whatever becomes
of the files: no further device is requested, the target is the one of that moment, the logger is
initialized, its answers hang on that moment alone, and without a target the files that there were
keep their contents. -/
theorem target_is_chosen_once (config : Config) (world : World) (id : Nat)
    (fresh : world.loggers id = Logger.new config) (quiet : List Happening)
    (quietly : ∀ happening ∈ quiet, happening.needsTarget = false) :
    let before := world.after id quiet
    let moment := before.host.files
    (before.requests = world.requests ∧
      before.operate id .isInitialized = .answered (.flag false) before ∧
      before.Answers id (config.opensCore moment)) ∧
    ∀ (first : Operation) (later : List Happening), first.needsTarget = true →
      let now := world.after id (quiet ++ .operation first :: later)
      now.requests = world.requests ++ requestsOf id ∧
      (∃ target, (now.loggers id).dispatch = .chosen target ∧ target.ChosenFrom config moment) ∧
      now.operate id .isInitialized = .answered (.flag true) now ∧
      now.Answers id (config.opensCore moment) ∧
      (config.opensCore moment = false → moment.contents <+: now.host.files.contents) := by
  intro before moment
  have begun : world.Waiting config world.requests id := by
    refine ⟨?_, ?_, rfl⟩ <;> rw [fresh] <;> rfl
  obtain ⟨survived, waiting⟩ := begun.run_quiet id world quiet quietly
  refine ⟨⟨waiting.requests_eq, ?_, waiting.answers id before⟩, ?_⟩
  · simp only [operate, Logger.isInitialized, before, waiting.waiting]
  intro first later needs now
  obtain ⟨ready, sameHost⟩ := waiting.obtain id before
  have split : now = (before.obtain emit id).after id (.operation first :: later) := by
    rw [← after_ready id before first later needs ready.bound]
    simp only [now, before, after, List.map_append, run_append _ _ _ survived]
  have serving := ready.run id _ (.operation first :: later)
  rw [← split] at serving
  obtain ⟨target, chosen, same⟩ := serving.serving
  refine ⟨serving.requests_eq, ⟨target, chosen, ?_⟩, ?_, ?_, fun failed => ?_⟩
  · exact Target.chosenFrom_of_rewound config moment target same
  · simp only [operate, Logger.isInitialized, chosen]
  · exact serving.answers id now moment
  · have nothing := Logger.targetOf_not_core config moment failed
    rw [nothing] at ready
    have spared := ready.run_spares id _ (.operation first :: later)
    rw [sameHost, ← split] at spared
    exact spared

/-- The last device is made after a logger has asked for all of them. They would open now, but the
logger stays without a target. -/
theorem late_device_stays_unused :
    let device := fun channel : Channel =>
      Happening.change
        [Bytes.ofText "dev", Bytes.ofText "log", Bytes.ofText channel.deviceName] (.file [])
    let world := World.start FileSystem.initial ⟨none, none⟩ .bare .bare
    let quiet := [.operation .isMainWritable, device .main, device .radio]
    let later := [device .events, .operation (.send (.eventInt 1 2))]
    let now := world.after 0 (quiet ++ .operation .isAvailable :: later)
    (world.loggers 0 = Logger.new Config.default ∧
      (∀ happening ∈ quiet, happening.needsTarget = false) ∧
      Operation.isAvailable.needsTarget = true) ∧
    Config.default.opensCore now.host.files = true ∧
    now.requests = requestsOf 0 ∧ now.Answers 0 false := by
  intro device world quiet later now
  have quietly : ∀ happening ∈ quiet, happening.needsTarget = false :=
    List.forall_mem_cons.mpr ⟨rfl, List.forall_mem_cons.mpr ⟨rfl,
      List.forall_mem_cons.mpr ⟨rfl, List.forall_mem_nil _⟩⟩⟩
  have failed : Config.default.opensCore (world.after 0 quiet).host.files = false := by decide
  have held := (target_is_chosen_once Config.default world 0 rfl quiet quietly).2
    .isAvailable later rfl
  rw [failed] at held
  exact ⟨⟨rfl, quietly, rfl⟩, by decide, held.1, held.2.2.2.1⟩

end KernelLog
