import KernelLog.Proofs.LoggerLives
import KernelLog.Proofs.NestedCalls
import Mathlib.Logic.Relation

/-!
# What a step can do

A step of the process is a series of moves, of which there are few: a message is
kept, the devices of a logger are opened, a frame is written, the main device is
probed, a logger is made. What holds of each move holds of every step and every run.
Only the installation of a bridge is no move.

Two laws are stated here. Nothing ever waits for itself: no world that a run leads to
is stuck, and in none is a logger found half-way through opening its devices. And
what a logger has requested, together with what it has yet to request, is always the
same, so its devices are requested once at most.
-/

namespace KernelLog

open Relation

/-- Whether a step asks for the installation of a bridge. -/
def Step.installs : Step → Bool
  | .install _ _ _ _ => true
  | .create _ _ | .operate _ _ | .assert _ _ _ _ | .change _ _ | .makeBridge _ _ _ _
  | .bridgeMessage _ _ | .log _ | .deposit _ _ | .clear _ => false

namespace World

/-- What happens to a world in one go. -/
inductive Move (world : World) : World → Prop
  | noted (message : Message) :
      Move world { world with facade := world.facade.noting message }
  | opened (id : Nat) (waiting : (world.loggers id).dispatch = .unopened) :
      Move world (world.obtain emit id)
  | written (id : Nat) (target : Target) (frame : Frame)
      (bound : (world.loggers id).dispatch = .chosen target) :
      Move world (world.boundTo id (world.host.write target frame).target
        (world.host.write target frame).host)
  | hung (id : Nat) (within : (world.loggers id).dispatch = .opening) :
      Move world { world with stuck := true }
  | probed (id : Nat) (answer : Bool) :
      Move world { world.setLogger id { world.loggers id with mainWritable := some answer } with
        openings := world.openings ++ [.probe id] }
  | added (logger : Logger) (whole : logger.dispatch ≠ .opening) :
      Move world (world.addLogger logger).2
  | shared (id : Nat) : Move world { world with shared := some id }
  /-- Files change, or a memory or a writer from outside, past all loggers. -/
  | hosted (host : Host) : Move world { world with host := host }

/-- Any number of moves. -/
abbrev Moves : World → World → Prop := ReflTransGen Move

/-! ## Every step is a series of moves -/

section Steps

variable (id : Nat) (world : World)

/-- A logger that has been asked for its target waits no more. -/
theorem obtain_not_unopened : ((world.obtain emit id).loggers id).dispatch ≠ .unopened := by
  cases dispatch : (world.loggers id).dispatch with
  | unopened =>
    rw [obtain_of_unopened id world dispatch]
    simp only [boundTo_logger, Logger.withDispatch, ne_eq, reduceCtorEq, not_false_eq_true]
  | opening => simp [obtain, dispatch]
  | chosen target => simp [obtain, dispatch]

/-- Getting a target is a move, or none. -/
theorem obtain_moves : Moves world (world.obtain emit id) := by
  cases dispatch : (world.loggers id).dispatch with
  | unopened => exact .single (.opened id dispatch)
  | opening =>
    simp only [obtain, dispatch]
    exact .refl
  | chosen target =>
    rw [obtain_of_chosen world id target emit dispatch]

/-- Sending a frame opens the devices if need be, and writes. -/
theorem send_moves (frame : Frame) : Moves world (world.send emit id frame).2 := by
  refine (obtain_moves id world).tail ?_
  have ready := obtain_not_unopened id world
  simp only [send, deliver]
  cases dispatch : ((world.obtain emit id).loggers id).dispatch with
  | unopened => exact (ready dispatch).elim
  | opening => exact .hung id dispatch
  | chosen target => exact .written id target frame dispatch

/-- So does the question whether writes can succeed, but it writes nothing. -/
theorem isAvailable_moves : Moves world (world.isAvailable emit id).2 := by
  have ready := obtain_not_unopened id world
  simp only [isAvailable]
  cases dispatch : ((world.obtain emit id).loggers id).dispatch with
  | unopened => exact (ready dispatch).elim
  | opening => exact (obtain_moves id world).tail (.hung id dispatch)
  | chosen target => exact obtain_moves id world

/-- A message that goes over a bridge is a frame that is sent, or nothing. -/
theorem forward_moves (bridge : Bridge) (message : Message) :
    Moves world (world.forward emit bridge message) := by
  unfold forward
  split
  · exact send_moves bridge.logger world (bridge.frame message)
  · exact .refl

/-- A message for the facade is kept, forwarded or dropped. -/
theorem emit_moves (message : Message) : Moves world (emit message world) := by
  rw [emit_discreet.emit_eq]
  simp only [handing]
  by_cases admitted : world.facade.maxLevel.admits message.level = true
  · simp only [admitted, ↓reduceIte]
    cases backend : world.facade.backend with
    | absent => exact .refl
    | collector =>
      have kept : Move world { world with facade := world.facade.noting message } := .noted message
      simp only [Facade.noting, admitted, backend, and_self, ↓reduceIte] at kept
      exact .single kept
    | bridge bridge => exact forward_moves world bridge message
  · simp only [admitted, Bool.false_eq_true, ↓reduceIte]
    exact .refl

/-- Whatever is done with a logger is a series of moves. -/
theorem operate_moves (operation : Operation) :
    Moves world (world.operate id operation).world := by
  cases operation with
  | send call => exact send_moves id world call.frame
  | failAssertion condition tag message => exact send_moves id world _
  | isAvailable => exact isAvailable_moves id world
  | isMainWritable =>
    simp only [operate, isMainWritable, Outcome.world]
    cases (world.loggers id).mainWritable with
    | some answer => exact .refl
    | none => exact .single (.probed id _)
  | isInitialized | isLoggable _ _ | config | describe => exact .refl

/-- Making a logger is a move, before which a writer may be supplied for it. -/
theorem create_moves (config : Config) (binding : Binding) :
    Moves world (world.create config binding).2 := by
  cases binding with
  | devices => exact .single (.added _ (by simp [Logger.new]))
  | nothing | memory | sharedMemory number =>
    exact .single (.added _ (by simp [Logger.withTarget]))
  | custom writer => exact .tail (.single (.hosted _)) (.added _ (by simp [Logger.withTarget]))

/-- The logger of the process is made in a few moves: the report on a refused configuration is kept
or dropped, and a logger is added and becomes the one of the process. -/
theorem refer_moves (on : LoggerRef) : Moves world (world.refer on).2 := by
  cases on with
  | numbered id => exact .refl
  | shared =>
    simp only [refer, sharedLogger]
    cases world.shared with
    | some id => exact .refl
    | none =>
      have fresh : ∀ config, (Logger.new config).dispatch ≠ .opening := by simp [Logger.new]
      cases world.environment.config world.host.files.read with
      | ok config => exact .tail (.single (.added _ (fresh config))) (.shared _)
      | error cause =>
        have warned := emit_moves world (Message.configRefused world.wording cause)
        exact (warned.tail (.added _ (fresh Config.default))).tail (.shared _)

/-- A step is a series of moves, unless it installs a bridge. -/
theorem step_moves (step : Step) (other : step.installs = false) :
    Moves world (world.step step).world := by
  cases step with
  | create config binding => exact create_moves world config binding
  | operate on operation => exact (refer_moves world on).trans (operate_moves _ _ operation)
  | assert holds condition tag message =>
    cases holds with
    | true => exact .refl
    | false => exact (refer_moves world .shared).trans (operate_moves _ _ (.failAssertion _ _ _))
  | makeBridge on tagMode channel filter => exact refer_moves world on
  | bridgeMessage bridge message => exact forward_moves world bridge message
  | install on tagMode channel filter => cases other
  | log message => exact emit_moves world message
  | change _ _ | deposit _ _ | clear _ => exact .single (.hosted _)

/-- Every step is a series of moves, after which the facade may have a bridge installed. -/
theorem step_moves_and_installs (step : Step) :
    ∃ moved facade, Moves world moved ∧
      (world.step step).world = { moved with facade := facade } := by
  cases installs : step.installs with
  | false => exact ⟨_, _, step_moves world step installs, rfl⟩
  | true =>
    cases step with
    | install on tagMode channel filter =>
      simp only [World.step, makeBridge, World.install, Outcome.world]
      split
      · exact ⟨_, _, refer_moves world on, rfl⟩
      · exact ⟨_, _, refer_moves world on, rfl⟩
    | _ => cases installs

end Steps

/-! ## Nothing waits for itself -/

/-- A world in which nothing waits for ever, and no logger is half-way through opening its devices.
-/
structure Settled (world : World) : Prop where
  free : world.stuck = false
  whole : ∀ id, (world.loggers id).dispatch ≠ .opening

/-- The world at the start of a process is settled. -/
theorem settled_start (files : FileSystem) (environment : Environment) (wording : DocumentWording)
    (facade : Facade) : (start files environment wording facade).Settled where
  free := rfl
  whole := by simp [start, Logger.new]

/-- Loggers are settled still after one of them is replaced by a settled one. -/
theorem Settled.set {world : World} (settled : world.Settled) (id : Nat) (logger : Logger)
    (whole : logger.dispatch ≠ .opening) :
    ∀ other, (world.loggers.set id logger other).dispatch ≠ .opening := by
  intro other
  by_cases same : other = id
  · rw [same, Numbered.set_same]
    exact whole
  · rw [Numbered.set_other _ _ _ _ same]
    exact settled.whole other

/-- A move leaves a settled world settled. -/
theorem Settled.move {world after : World} (settled : world.Settled) (move : Move world after) :
    after.Settled := by
  cases move with
  | opened id waiting =>
    rw [obtain_of_unopened id world waiting]
    exact ⟨settled.free, settled.set id _ nofun⟩
  | written id target frame bound => exact ⟨settled.free, settled.set id _ nofun⟩
  | hung id within => exact (settled.whole id within).elim
  | probed id answer => exact ⟨settled.free, settled.set id _ (settled.whole id)⟩
  | added logger whole => exact ⟨settled.free, settled.set _ _ whole⟩
  | noted _ | shared _ | hosted _ => exact ⟨settled.free, settled.whole⟩

/-- Several moves leave a settled world settled. -/
theorem Settled.moves {world after : World} (settled : world.Settled) (moves : Moves world after) :
    after.Settled := by
  induction moves with
  | refl => exact settled
  | tail _ move inductionHypothesis => exact inductionHypothesis.move move

/-- A step leaves a settled world settled. -/
theorem Settled.step {world : World} (settled : world.Settled) (step : Step) :
    (world.step step).world.Settled := by
  obtain ⟨moved, facade, moves, same⟩ := step_moves_and_installs world step
  have held := settled.moves moves
  rw [same]
  exact ⟨held.free, held.whole⟩

/-- A run leaves a settled world settled. -/
theorem Settled.run {world : World} (settled : world.Settled) (steps : List Step) :
    (run steps world).world.Settled :=
  run_keeps Settled steps (fun step _ _ held => held.step step) world settled

/-! ## Devices are requested once -/

/-- The requests of one logger for its devices. -/
def requestsFor (id : Nat) (world : World) : List (Nat × Channel) :=
  world.requests.filter (·.1 == id)

/-- The requests that a logger has yet to make. -/
def outstanding (id : Nat) (world : World) : List (Nat × Channel) :=
  match (world.loggers id).dispatch with
  | .unopened => requestsOf id
  | .opening | .chosen _ => []

/-- One logger's requests are none of another's. -/
theorem filter_requestsOf (id other : Nat) :
    (requestsOf other).filter (·.1 == id) = if other = id then requestsOf id else [] := by
  by_cases same : other = id <;> simp [requestsOf, same]

/-- A logger that opens its devices requests each of them once, and has none to request then. -/
theorem requested_obtain (opening id : Nat) (world : World)
    (waiting : (world.loggers opening).dispatch = .unopened) :
    let opened := world.obtain emit opening
    opened.requestsFor id =
        world.requestsFor id ++ (if opening = id then requestsOf id else []) ∧
      opened.outstanding id = if opening = id then [] else world.outstanding id := by
  intro opened
  have requests : opened.requests = world.requests ++ requestsOf opening := by
    simp only [opened, obtain_of_unopened opening world waiting]
    simp [requests, requestsOf]
  refine ⟨?_, ?_⟩
  · rw [requestsFor, requests, List.filter_append, filter_requestsOf]
    rfl
  · simp only [opened, obtain_of_unopened opening world waiting, outstanding, boundTo, setLogger]
    by_cases same : opening = id
    · simp [same, Logger.withDispatch]
    · simp [same, Numbered.set_other _ _ _ _ (Ne.symm same)]

/-- What a logger has requested and what it has yet to request are together the same after a move as
before it. Opening moves all of a logger's requests from the one to the other. -/
theorem Move.requested {world after : World} (move : Move world after) (id : Nat)
    (known : id < world.count) :
    after.requestsFor id ++ after.outstanding id =
      world.requestsFor id ++ world.outstanding id := by
  cases move with
  | opened opening waiting =>
    obtain ⟨made, left⟩ := requested_obtain opening id world waiting
    rw [made, left]
    by_cases same : opening = id
    · subst same
      simp [outstanding, waiting]
    · simp [same]
  | written writing target frame bound =>
    simp only [requestsFor, outstanding, boundTo, setLogger, requests]
    by_cases same : id = writing
    · subst same
      simp [bound, Logger.withDispatch]
    · simp [Numbered.set_other _ _ _ _ same]
  | probed probing answer =>
    simp only [requestsFor, outstanding, setLogger, requests, List.filterMap_append]
    by_cases same : id = probing
    · subst same
      simp
    · simp [Numbered.set_other _ _ _ _ same]
  | added logger whole =>
    have others : id ≠ world.count := Nat.ne_of_lt known
    simp only [requestsFor, outstanding, addLogger, setLogger, requests,
      Numbered.set_other _ _ _ _ others]
  | hung _ _ | noted _ | shared _ | hosted _ => rfl

/-- No move takes a number away. -/
theorem Move.count_le {world after : World} (move : Move world after) :
    world.count ≤ after.count := by
  cases move with
  | opened id waiting =>
    rw [obtain_of_unopened id world waiting]
    exact Nat.le_refl _
  | added logger whole => exact Nat.le_succ _
  | written _ _ _ _ | probed _ _ | hung _ _ | noted _ | shared _ | hosted _ => exact Nat.le_refl _

/-- The same holds of several moves. -/
theorem Moves.requested {world after : World} (moves : Moves world after) (id : Nat)
    (known : id < world.count) :
    id < after.count ∧
      after.requestsFor id ++ after.outstanding id =
        world.requestsFor id ++ world.outstanding id := by
  induction moves with
  | refl => exact ⟨known, rfl⟩
  | tail _ move inductionHypothesis =>
    obtain ⟨stillKnown, same⟩ := inductionHypothesis
    exact ⟨Nat.lt_of_lt_of_le stillKnown move.count_le, (move.requested id stillKnown).trans same⟩

/-- The same holds of a run, so a logger requests its devices once at most. -/
theorem requested_run (world : World) (steps : List Step) (id : Nat) (known : id < world.count) :
    let after := (run steps world).world
    after.requestsFor id ++ after.outstanding id =
      world.requestsFor id ++ world.outstanding id := by
  have kept := run_keeps
    (fun now => id < now.count ∧ now.requestsFor id ++ now.outstanding id =
      world.requestsFor id ++ world.outstanding id)
    steps (fun step _ now held => ?_) world ⟨known, rfl⟩
  · exact kept.2
  · obtain ⟨moved, facade, moves, same⟩ := step_moves_and_installs now step
    obtain ⟨stillKnown, conserved⟩ := Moves.requested moves id held.1
    rw [same]
    exact ⟨stillKnown, conserved.trans held.2⟩

end World
end KernelLog
