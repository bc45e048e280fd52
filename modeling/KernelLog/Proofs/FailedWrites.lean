import KernelLog.Proofs.CallRuns

/-!
# Failed writes leave no trace

A logger of the devices, or one without any, stores a record whole or not at all. A
call that fails leaves the world it was made in, down to the offsets; a call that
succeeds answers with the whole length of its record. So nobody can tell from the
answers of the other calls, or from the files, whether a failing call was made.

The one exception is a call that a logger has to open its devices for. If it fails,
the logger has its target all the same.
-/

namespace KernelLog

/-- A target whose frames go to devices or nowhere. -/
def Target.IsKernel : Target → Prop
  | .devices _ | .nothing => True
  | .memory _ | .custom _ => False

/-- The size of a frame is the number of its bytes. -/
theorem Frame.size_eq (frame : Frame) : frame.size = frame.bytes.length := by
  obtain ⟨channel, segments⟩ := frame
  simp only [Frame.size, Frame.bytes]
  induction segments with
  | nil => rfl
  | cons segment rest inductionHypothesis =>
    rw [List.foldr_cons, inductionHypothesis, List.flatten_cons, List.length_append]

/-- Devices answer a frame with its whole length, or they fail and are left as they were, and the
files with them. -/
theorem Host.write_whole_or_not (host : Host) (target : Target) (frame : Frame)
    (kernel : target.IsKernel) :
    (host.write target frame).answer = .ok frame.bytes.length ∨
      ∃ cause, (cause = .unavailable ∨ ∃ failure, cause = .io failure) ∧
        host.write target frame = { answer := .error cause, target := target, host := host } := by
  cases target with
  | devices devices =>
    simp only [Host.write]
    split
    · exact .inl (congrArg Except.ok frame.size_eq)
    · rename_i failure _
      exact .inr ⟨.io failure, .inr ⟨failure, rfl⟩, rfl⟩
  | nothing => exact .inr ⟨.unavailable, .inl rfl, rfl⟩
  | memory number => exact kernel.elim
  | custom number => exact kernel.elim

/-- A write leaves a target what it is. -/
theorem Host.write_isKernel (host : Host) (target : Target) (frame : Frame)
    (kernel : target.IsKernel) : (host.write target frame).target.IsKernel := by
  cases target with
  | devices devices =>
    simp only [Host.write]
    split <;> trivial
  | nothing => trivial
  | memory number => exact kernel.elim
  | custom number => exact kernel.elim

/-- What opening the devices leads to is the devices or nothing. -/
theorem Logger.targetOf_isKernel (attempts : Attempts Descriptor) :
    (targetOf attempts).IsKernel := by
  unfold targetOf
  split <;> trivial

/-- Calls with their answers, and what is left of them when some that failed are deleted. -/
inductive Deletes : List (Call × Answer) → List (Call × Answer) → Prop
  | done : Deletes [] []
  | kept (call : Call) (answer : Answer) {all left : List (Call × Answer)}
      (rest : Deletes all left) : Deletes ((call, answer) :: all) ((call, answer) :: left)
  | deleted (call : Call) (cause : Error) {all left : List (Call × Answer)}
      (rest : Deletes all left) : Deletes ((call, .sent (.error cause)) :: all) left

namespace World

/-- A logger that has its target, which is the devices or nothing. -/
def OnKernel (id : Nat) (world : World) : Prop :=
  ∃ target, (world.loggers id).dispatch = .chosen target ∧ target.IsKernel

/-- A logger on its devices, or on none, has a target. -/
theorem OnKernel.bound {id : Nat} {world : World} (ready : world.OnKernel id) :
    ∃ target, (world.loggers id).dispatch = .chosen target := by
  obtain ⟨target, bound, _⟩ := ready
  exact ⟨target, bound⟩

section Steps

variable (id : Nat) (world : World)

/-- A call succeeds with the whole length of its record, or it fails and changes nothing at all. -/
theorem OnKernel.step_call (ready : world.OnKernel id) (call : Call) :
    (∃ after, world.step (call.step id) = .answered (.sent (.ok call.frame.bytes.length)) after ∧
        after.OnKernel id) ∨
      ∃ cause, (cause = .unavailable ∨ ∃ failure, cause = .io failure) ∧
        world.step (call.step id) = .answered (.sent (.error cause)) world := by
  obtain ⟨target, bound, kernel⟩ := ready
  have taken := World.step_call world id target call bound
  obtain whole | ⟨cause, kind, refused⟩ := world.host.write_whole_or_not target call.frame kernel
  · left
    refine ⟨world.boundTo id _ _, by rw [← whole]; exact taken, ?_⟩
    refine ⟨(world.host.write target call.frame).target, ?_, ?_⟩
    · rw [boundTo_logger]
      rfl
    · exact world.host.write_isKernel target call.frame kernel
  · right
    refine ⟨cause, kind, ?_⟩
    rw [taken, refused, boundTo_self world id target bound]

/-- Calls keep a logger on its devices, and the process survives them. -/
theorem OnKernel.run_calls (ready : world.OnKernel id) (calls : List Call) :
    (run (calls.map (Call.step id)) world).world.OnKernel id := by
  refine run_keeps (OnKernel id) _ (List.forall_mem_map.mpr fun call _ now held => ?_) world ready
  obtain ⟨after, taken, still⟩ | ⟨cause, _, taken⟩ := held.step_call id now call
  · rw [taken]
    exact still
  · rw [taken]
    exact held

/-- Without some of the calls that fail, a run leads to the same world, and the calls that are left
have the answers that they had.

Induct over the calls. One that stays takes the same step in both runs; one that is deleted failed,
so the step that it took in the longer run led nowhere. -/
theorem OnKernel.run_deleted (ready : world.OnKernel id) (calls : List Call)
    (left : List (Call × Answer))
    (deletes : Deletes (calls.zip (run (calls.map (Call.step id)) world).answers) left) :
    run ((left.map Prod.fst).map (Call.step id)) world =
      { run (calls.map (Call.step id)) world with answers := left.map Prod.snd } := by
  induction calls generalizing world left with
  | nil =>
    cases deletes
    rfl
  | cons call rest inductionHypothesis =>
    obtain ⟨after, taken, still⟩ | ⟨cause, _, taken⟩ := ready.step_call id world call
    · simp only [List.map_cons, World.run, taken, List.zip_cons_cons] at deletes ⊢
      cases deletes with
      | kept _ _ others =>
        have later := inductionHypothesis after still _ others
        simp only [List.map_cons, World.run, taken, later]
    · simp only [List.map_cons, World.run, taken, List.zip_cons_cons] at deletes ⊢
      cases deletes with
      | kept _ _ others =>
        have later := inductionHypothesis world ready _ others
        simp only [List.map_cons, World.run, taken, later]
      | deleted _ _ others => exact inductionHypothesis world ready left others

/-- Opening the devices of a new logger fixes its target, which is the devices or nothing. Beyond
that the requests are noted, and the facade may keep the reports. -/
theorem obtain_new (config : Config) (fresh : world.loggers id = Logger.new config) :
    let target := Logger.targetOf ((Logger.new config).tryOpen world.host.files)
    let ready := world.obtain emit id
    ready.OnKernel id ∧
      ready = { world.boundTo id target world.host with
        facade := ready.facade
        openings := ready.openings } := by
  intro target ready
  have waiting : (world.loggers id).dispatch = .unopened := by
    rw [fresh]
    rfl
  have opened := obtain_of_unopened id world waiting
  rw [fresh] at opened
  refine ⟨⟨target, ?_, Logger.targetOf_isKernel _⟩, ?_⟩
  · simp only [ready, opened, boundTo_logger]
    rfl
  · simp only [ready, opened, target]

/-- Without some of the calls that fail, a run on a new logger writes the same, and the calls that
are left have the answers that they had. If none is left, the devices stay closed. -/
theorem run_deleted_new (config : Config) (fresh : world.loggers id = Logger.new config)
    (calls : List Call) (left : List (Call × Answer)) :
    let whole := run (calls.map (Call.step id)) world
    let shorter := run ((left.map Prod.fst).map (Call.step id)) world
    Deletes (calls.zip whole.answers) left →
      shorter.answers = left.map Prod.snd ∧ shorter.world.host = whole.world.host ∧
        (left ≠ [] → shorter.world = whole.world) := by
  intro whole shorter deletes
  obtain ⟨opened, fixed⟩ := obtain_new id world config fresh
  by_cases none : calls = []
  · subst none
    cases deletes
    exact ⟨rfl, rfl, fun some => (some rfl).elim⟩
  have wholeReady : whole = run (calls.map (Call.step id)) (world.obtain emit id) :=
    run_calls_ready id world calls opened.bound none
  rw [wholeReady] at deletes ⊢
  have deleted := opened.run_deleted id (world.obtain emit id) calls left deletes
  by_cases nothing : left = []
  · subst nothing
    have sameHost : (world.obtain emit id).host = _ :=
      congrArg (fun finished => finished.world.host) deleted
    refine ⟨rfl, ?_, fun some => (some rfl).elim⟩
    rw [← sameHost, fixed]
    rfl
  · have shorterReady : shorter =
        run ((left.map Prod.fst).map (Call.step id)) (world.obtain emit id) := by
      refine run_calls_ready id world (left.map Prod.fst) opened.bound ?_
      simpa only [ne_eq, List.map_eq_nil_iff] using nothing
    rw [shorterReady, deleted]
    exact ⟨rfl, rfl, fun _ => rfl⟩

end Steps

end World

open World

/-- Calls that fail leave no trace.

Whatever calls a logger on the devices, or on none, has served, the next call either answers with
the whole length of its record, or fails as unavailable or with a failure of the device and leaves
the world as it is: every file, every offset and the target. Some of the calls that fail can
therefore be deleted from a run, and the rest have the answers that they had and lead to the same
world. On a logger that has yet to open its devices, a first call that fails leaves the target that
they lead to, and beyond that only the reports and the requests tell of it; deleting calls that
fail changes neither the other answers nor anything that is written, nor anything else as long as
one call is left. -/
theorem failed_writes_leave_no_trace (id : Nat) (world : World) (ready : world.OnKernel id) :
    (∀ (before : List Call) (call : Call),
      let reached := (run (before.map (Call.step id)) world).world
      ∃ result after, reached.step (call.step id) = .answered (.sent result) after ∧
        (∀ cause, result = .error cause →
          after = reached ∧ (cause = .unavailable ∨ ∃ failure, cause = .io failure)) ∧
        ∀ count, result = .ok count → count = call.frame.bytes.length) ∧
    (∀ (calls : List Call) (left : List (Call × Answer)),
      let whole := run (calls.map (Call.step id)) world
      Deletes (calls.zip whole.answers) left →
        run ((left.map Prod.fst).map (Call.step id)) world =
          { whole with answers := left.map Prod.snd }) ∧
    ∀ (start : World) (config : Config), start.loggers id = Logger.new config →
      (∀ (call : Call) (cause : Error) (after : World),
        start.step (call.step id) = .answered (.sent (.error cause)) after →
          let target := Logger.targetOf ((Logger.new config).tryOpen start.host.files)
          after = { start.boundTo id target start.host with
            facade := after.facade
            openings := after.openings }) ∧
      ∀ (calls : List Call) (left : List (Call × Answer)),
        let whole := run (calls.map (Call.step id)) start
        let shorter := run ((left.map Prod.fst).map (Call.step id)) start
        Deletes (calls.zip whole.answers) left →
          shorter.answers = left.map Prod.snd ∧ shorter.world.host = whole.world.host ∧
            (left ≠ [] → shorter.world = whole.world) := by
  refine ⟨fun before call => ?_, ready.run_deleted id world,
    fun start config fresh => ⟨?_, run_deleted_new id start config fresh⟩⟩
  · intro reached
    have still : reached.OnKernel id := ready.run_calls id world before
    obtain ⟨after, taken, _⟩ | ⟨cause, kind, taken⟩ := still.step_call id reached call
    · exact ⟨_, after, taken, nofun, fun count same => (Except.ok.inj same).symm⟩
    · refine ⟨_, reached, taken, fun other same => ⟨rfl, ?_⟩, nofun⟩
      rw [← Except.error.inj same]
      exact kind
  · intro call cause after taken target
    obtain ⟨opened, fixed⟩ := obtain_new id start config fresh
    rw [step_call_ready id start call opened.bound] at taken
    obtain ⟨_, whole, _⟩ | ⟨_, _, refused⟩ := opened.step_call id (start.obtain emit id) call
    · rw [whole] at taken
      cases taken
    · rw [refused] at taken
      cases taken
      exact fixed

/-- Radio's device is full, the events device swallows what it is given, and system's is missing. A
record for radio is refused between others, and without that call main's file, which system shares,
is the same to the last byte. -/
theorem refused_call_is_not_missed :
    let place := fun channel : Channel =>
      [Bytes.ofText "dev", Bytes.ofText "log", Bytes.ofText channel.deviceName]
    let files :=
      ((FileSystem.initial.apply (place .main) (.file (Bytes.ofText "0123456789AB"))).apply
        (place .radio) (.link (Bytes.ofText "/dev/full"))).apply
        (place .events) (.link (Bytes.ofText "/dev/null"))
    let world := (World.start files ⟨none, none⟩ .bare .bare).obtain World.emit 0
    let radio := Call.writeTo .radio .warn "r" "3"
    let left : List (Call × Answer) :=
      [(.write .info "a" "1", .sent (.ok 5)), (.eventInt 1 2, .sent (.ok 9)),
        (.writeTo .system .warn "b" "2", .sent (.ok 5))]
    let calls := [.write .info "a" "1", radio, .eventInt 1 2, .writeTo .system .warn "b" "2"]
    let whole := World.run (calls.map (Call.step 0)) world
    let shorter := World.run ((left.map Prod.fst).map (Call.step 0)) world
    (world.OnKernel 0 ∧ Deletes (calls.zip whole.answers) left) ∧
    whole.answers[1]? = some (.sent (.error (.io .noSpace))) ∧
    shorter.answers = left.map Prod.snd ∧ shorter.world = whole.world ∧
    shorter.world.host.files.content 0 =
      [4] ++ Bytes.ofText "a\x001\x00" ++ [5] ++ Bytes.ofText "b\x002\x00" ++ Bytes.ofText "AB" := by
  intro place files world radio left calls whole shorter
  have opened := obtain_new 0 (World.start files ⟨none, none⟩ .bare .bare) Config.default rfl
  have ready : world.OnKernel 0 := opened.1
  let target := Logger.targetOf ((Logger.new Config.default).tryOpen files)
  have bound : (world.loggers 0).dispatch = .chosen target :=
    congrArg (fun made => (made.loggers 0).dispatch) opened.2
  have written : (world.host.writeAll target (calls.map Call.frame)).answers =
      [.ok 5, .error (.io .noSpace), .ok 9, .ok 5] := by
    decide +kernel
  have answers : whole.answers = [.sent (.ok 5), .sent (.error (.io .noSpace)), .sent (.ok 9),
      .sent (.ok 5)] := by
    simp only [whole, run_calls world 0 target calls bound, written, List.map_cons, List.map_nil]
  have deletes : Deletes (calls.zip whole.answers) left := by
    rw [answers]
    exact .kept _ _ (.deleted _ _ (.kept _ _ (.kept _ _ .done)))
  have held := (failed_writes_leave_no_trace 0 world ready).2.1 calls left deletes
  have same : shorter = { whole with answers := left.map Prod.snd } := held
  have refused : whole.answers[1]? = some (.sent (.error (.io .noSpace))) := by
    rw [answers]
    rfl
  have sameAnswers : shorter.answers = left.map Prod.snd := by rw [same]
  have sameWorld : shorter.world = whole.world := by rw [same]
  have content : whole.world.host.files.content 0 = [4] ++ Bytes.ofText "a\x001\x00" ++ [5] ++
      Bytes.ofText "b\x002\x00" ++ Bytes.ofText "AB" := by
    decide +kernel
  rw [← sameWorld] at content
  exact ⟨⟨ready, deletes⟩, refused, sameAnswers, sameWorld, content⟩

end KernelLog
