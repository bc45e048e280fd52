import KernelLog.Concurrent
import KernelLog.Proofs.LoneDescriptors
import KernelLog.Proofs.SteadyAnswers

/-!
# Threads that share a logger

Whatever the order in which threads take their steps, the devices are opened at most
once, every thread writes to the target that came of it, and every call is answered
as if it had been the only one. What is written is written as if the calls had been
made one after another, in the order of their writes, in which each thread's own
calls stand as the thread makes them.

The threads of a crowd and the writes that they have made are related by
`Crowd.Interleaves`; a step of a thread makes at most one more write.
-/

namespace KernelLog

namespace Crowd

/-- Threads that have yet to begin, each with the calls that it is to make. -/
def gather (id : Nat) (programs : List (List Call)) (world : World) : Crowd where
  logger := id
  threads := programs.map Thread.begin
  world := world

/-- The calls of one thread among the writes of several, which are given with the number of their
thread. -/
def callsOf (number : Nat) (writes : List (Nat × Call)) : List Call :=
  (writes.filter fun write => write.1 == number).map Prod.snd

/-- Writes of several threads that keep each thread's own order. What a thread was to call are its
writes and, behind them, what it has yet to call; it has the answers to its writes, and there are no
writes but the threads' own. -/
structure Interleaves (programs : List (List Call)) (result : Call → Except Error Nat)
    (writes : List (Nat × Call)) (threads : List Thread) : Prop where
  length : threads.length = programs.length
  numbers : ∀ write ∈ writes, write.1 < programs.length
  calls : ∀ number thread, threads[number]? = some thread →
    programs[number]? = some (callsOf number writes ++ thread.calls)
  answers : ∀ number thread, threads[number]? = some thread →
    thread.answers = (callsOf number writes).map result

section Threads

variable {programs : List (List Call)} {result : Call → Except Error Nat}
variable {writes : List (Nat × Call)} {threads : List Thread}

/-- One more write is one more call of its thread, and none of another. -/
theorem callsOf_concat (number other : Nat) (writes : List (Nat × Call)) (call : Call) :
    callsOf other (writes ++ [(number, call)]) =
      callsOf other writes ++ if number = other then [call] else [] := by
  by_cases same : number = other
  · simp [callsOf, same]
  · simp [callsOf, same]

/-- Threads that have yet to begin have written nothing. -/
theorem interleaves_begin (programs : List (List Call)) (result : Call → Except Error Nat) :
    Interleaves programs result [] (programs.map Thread.begin) := by
  refine ⟨List.length_map _, List.forall_mem_nil _, fun number thread found => ?_,
    fun number thread found => ?_⟩
  all_goals
    simp only [List.getElem?_map, Option.map_eq_some_iff] at found
    obtain ⟨program, member, rfl⟩ := found
  · exact member
  · rfl

/-- Where a thread is replaced, the new one is found, and elsewhere what there was. -/
theorem found_set (number other : Nat) (thread changed : Thread)
    (found : (threads.set number thread)[other]? = some changed) :
    (number = other ∧ changed = thread) ∨ (number ≠ other ∧ threads[other]? = some changed) := by
  rw [List.getElem?_set] at found
  by_cases here : number = other
  · rw [if_pos here, Option.ite_none_right_eq_some] at found
    exact .inl ⟨here, (Option.some.inj found.2).symm⟩
  · rw [if_neg here] at found
    exact .inr ⟨here, found⟩

/-- Obtaining the target is no write. -/
theorem Interleaves.prepare (held : Interleaves programs result writes threads)
    (number : Nat) (thread : Thread) (found : threads[number]? = some thread) :
    Interleaves programs result writes (threads.set number { thread with isReady := true }) := by
  refine ⟨?_, held.numbers, fun other changed met => ?_, fun other changed met => ?_⟩
  · rw [List.length_set]
    exact held.length
  · obtain ⟨rfl, rfl⟩ | ⟨_, old⟩ := found_set number other _ changed met
    · exact held.calls number thread found
    · exact held.calls other changed old
  · obtain ⟨rfl, rfl⟩ | ⟨_, old⟩ := found_set number other _ changed met
    · exact held.answers number thread found
    · exact held.answers other changed old

/-- A write is the next call of its thread, which gets the answer. -/
theorem Interleaves.write (held : Interleaves programs result writes threads)
    (number : Nat) (thread : Thread) (call : Call) (rest : List Call)
    (found : threads[number]? = some thread) (next : thread.calls = call :: rest) :
    Interleaves programs result (writes ++ [(number, call)])
      (threads.set number
        { calls := rest, isReady := false, answers := thread.answers ++ [result call] }) := by
  refine ⟨?_, fun write member => ?_, fun other changed met => ?_, fun other changed met => ?_⟩
  · rw [List.length_set]
    exact held.length
  · obtain old | new := List.mem_append.mp member
    · exact held.numbers write old
    · rw [List.mem_singleton.mp new, ← held.length]
      exact (List.getElem?_eq_some_iff.mp found).1
  · rw [callsOf_concat]
    obtain ⟨rfl, rfl⟩ | ⟨elsewhere, old⟩ := found_set number other _ changed met
    · have program := held.calls number thread found
      rw [next] at program
      simpa only [↓reduceIte, List.append_assoc, List.singleton_append] using program
    · rw [if_neg elsewhere, List.append_nil]
      exact held.calls other changed old
  · rw [callsOf_concat]
    obtain ⟨rfl, rfl⟩ | ⟨elsewhere, old⟩ := found_set number other _ changed met
    · have before := held.answers number thread found
      simp only [↓reduceIte, List.map_append, List.map_cons, List.map_nil, before]
    · rw [if_neg elsewhere, List.append_nil]
      exact held.answers other changed old

end Threads

/-- A step of a thread that has calls left is the first or the second of its next call. -/
theorem step_cases (emit : Emit) (crowd : Crowd) (number : Nat) :
    crowd.step emit number = crowd ∨
      (∃ thread, crowd.threads[number]? = some thread ∧
        crowd.step emit number =
          { crowd with
            threads := crowd.threads.set number { thread with isReady := true }
            world := crowd.world.obtain emit crowd.logger }) ∨
      ∃ thread call rest, crowd.threads[number]? = some thread ∧ thread.calls = call :: rest ∧
        thread.isReady = true ∧
        crowd.step emit number =
          { crowd with
            threads := crowd.threads.set number
              { calls := rest
                isReady := false
                answers := thread.answers ++ [(crowd.world.deliver crowd.logger call.frame).1] }
            world := (crowd.world.deliver crowd.logger call.frame).2 } := by
  unfold Crowd.step
  split
  · exact .inl rfl
  · rename_i thread found
    split
    · exact .inl rfl
    · exact .inr (.inl ⟨thread, found, rfl⟩)
    · rename_i call rest next isReady
      exact .inr (.inr ⟨thread, call, rest, found, next, isReady, rfl⟩)

/-- A crowd some of whose threads have written. As long as no thread has obtained the target, the
world is the one that they began in; from then on it is the one that the calls that have been
written leave, made one after another. -/
structure Accounts (start : World) (id : Nat) (programs : List (List Call))
    (writes : List (Nat × Call)) (crowd : Crowd) : Prop where
  logger : crowd.logger = id
  threads : Interleaves programs (fun call => (start.send World.emit id call.frame).1) writes
    crowd.threads
  world : (crowd.world = start ∧ writes = [] ∧ ∀ thread ∈ crowd.threads, thread.isReady = false) ∨
    crowd.world =
      (World.run (writes.map fun write => write.2.step id) (start.obtain World.emit id)).world

section Steps

variable {start : World} {id : Nat} {programs : List (List Call)} {writes : List (Nat × Call)}
variable {crowd : Crowd} {choice : Target} {requested : List (Nat × Channel)}

/-- A step of a thread makes at most one more write. -/
theorem Accounts.step (held : crowd.Accounts start id programs writes)
    (first : start.FirstObtained id choice requested) (number : Nat) :
    ∃ more, (crowd.step World.emit number).Accounts start id programs (writes ++ more) := by
  have written : writes.map (fun write => write.2.step id) =
      (writes.map Prod.snd).map (Call.step id) := by
    rw [List.map_map]
    rfl
  have serving : ∀ world : World, world = (World.run (writes.map fun write => write.2.step id)
      (start.obtain World.emit id)).world →
        world.Serving (start.loggers id).config choice requested id := by
    rintro world rfl
    rw [written]
    exact (first.serving.run_calls (writes.map Prod.snd)).2
  obtain idle | ⟨thread, found, prepared⟩ | ⟨thread, call, rest, found, next, isReady, wrote⟩ :=
    crowd.step_cases World.emit number
  · exact ⟨[], by simpa only [idle, List.append_nil] using held⟩
  · refine ⟨[], ?_⟩
    rw [prepared, List.append_nil]
    refine ⟨held.logger, held.threads.prepare number thread found, .inr ?_⟩
    rw [held.logger]
    obtain ⟨begun, rfl, _⟩ | gone := held.world
    · rw [begun]
      rfl
    · obtain ⟨target, bound⟩ := (serving _ gone).bound
      rw [World.obtain_of_chosen _ id target World.emit bound]
      exact gone
  · -- Who is ready has obtained the target, so the crowd has left the world that it began in.
    have gone : crowd.world = _ := held.world.resolve_left fun begun => by
      have never := begun.2.2 thread (List.mem_of_getElem? found)
      rw [isReady] at never
      cases never
    obtain ⟨target, bound⟩ := (serving _ gone).bound
    have ready := World.obtain_of_chosen _ id target World.emit bound
    have answered : (crowd.world.deliver id call.frame).1 =
        (start.send World.emit id call.frame).1 := by
      have alike := first.serving.answer_eq (serving _ gone) first.own call.frame
      have again := World.obtain_of_chosen _ id _ World.emit first.bound
      simpa only [World.send, again, ready] using alike
    refine ⟨[(number, call)], ?_⟩
    rw [wrote, held.logger, answered]
    refine ⟨rfl, held.threads.write number thread call rest found next, .inr ?_⟩
    have concat := first.serving.run_concat (writes.map Prod.snd) call
    rw [← written, ← gone] at concat
    rw [← concat]
    simp only [List.map_append, List.map_map, List.map_cons, List.map_nil]
    rfl

/-- The writes of a crowd are accounted for after any schedule. -/
theorem Accounts.run (held : crowd.Accounts start id programs writes)
    (first : start.FirstObtained id choice requested) (schedule : List Nat) :
    ∃ more, (crowd.run World.emit schedule).Accounts start id programs (writes ++ more) := by
  unfold Crowd.run
  induction schedule generalizing crowd writes with
  | nil => exact ⟨[], by simpa only [List.foldl_nil, List.append_nil] using held⟩
  | cons number rest inductionHypothesis =>
    obtain ⟨more, next⟩ := held.step first number
    obtain ⟨others, later⟩ := inductionHypothesis next
    exact ⟨more ++ others, by simpa only [List.foldl_cons, List.append_assoc] using later⟩

/-- Threads that have yet to begin leave the world as it is. -/
theorem accounts_gather (start : World) (id : Nat) (programs : List (List Call)) :
    (gather id programs start).Accounts start id programs [] := by
  refine ⟨rfl, interleaves_begin programs _, .inl ⟨rfl, rfl, ?_⟩⟩
  simp only [gather, List.forall_mem_map]
  exact fun _ _ => rfl

/-- The world of a crowd in which a thread has obtained the target is the one that the writes
leave. -/
theorem Accounts.world_of_begun (held : crowd.Accounts start id programs writes)
    (begun : ∃ thread ∈ crowd.threads, thread.isReady = true ∨ thread.answers ≠ []) :
    crowd.world =
      (World.run (writes.map fun write => write.2.step id) (start.obtain World.emit id)).world := by
  refine held.world.resolve_left ?_
  rintro ⟨_, rfl, none⟩
  obtain ⟨thread, member, isReady | answered⟩ := begun
  · rw [none thread member] at isReady
    cases isReady
  · obtain ⟨number, found⟩ := List.getElem?_of_mem member
    exact answered (held.threads.answers number thread found)

/-- The calls that have been written, made one after another, are writes to the target that was
obtained. -/
theorem run_writes (first : start.FirstObtained id choice requested)
    (writes : List (Nat × Call)) :
    let written := start.host.writeAll choice (writes.map fun write => write.2.frame)
    (World.run (writes.map fun write => write.2.step id) (start.obtain World.emit id)).world =
      (start.obtain World.emit id).boundTo id written.target written.host := by
  have walked := World.run_calls _ id choice (writes.map Prod.snd) first.bound
  simp only [List.map_map, first.sameHost] at walked
  exact congrArg World.Run.world walked

/-- What a crowd has done to the host is what its writes do to the target that was obtained. -/
theorem Accounts.host_eq (held : crowd.Accounts start id programs writes)
    (first : start.FirstObtained id choice requested) :
    crowd.world.host = (start.host.writeAll choice (writes.map fun write => write.2.frame)).host := by
  obtain ⟨begun, rfl, _⟩ | gone := held.world
  · rw [begun]
    rfl
  · rw [gone, run_writes first writes, World.boundTo_host]

/-- A crowd has requested devices at most once, and no thread waits for ever. -/
theorem Accounts.quiet (held : crowd.Accounts start id programs writes)
    (first : start.FirstObtained id choice requested) :
    (crowd.world.requests = start.requests ∨
        crowd.world.requests = start.requests ++ World.requestsOf id) ∧
      crowd.world.stuck = start.stuck := by
  obtain ⟨begun, _, _⟩ | gone := held.world
  · rw [begun]
    exact ⟨.inl rfl, rfl⟩
  · rw [gone, run_writes first writes]
    have requests : (start.obtain World.emit id).requests = requested :=
      first.serving.requests_eq
    refine ⟨?_, first.unstuck⟩
    rw [← requests] at first
    exact first.once

end Steps

end Crowd

open World

/-- Threads that share a logger, new or on a memory, interleave their calls and nothing else.

Whatever steps they have taken in whatever order, the devices were requested at most once, and every
thread that has obtained the target has found the one that the first of them chose; none is left
waiting. The writes that were made are the threads' own calls, each once and those of a thread in
its order, and a call is answered as it is when calls are made one after another, in any order. What
is left is what these calls leave if they are made one after another in the order of their writes: on
a memory their frames are appended, channel by channel, and a file that one descriptor alone is on
begins with whole frames, those of the channels that the descriptor carries. -/
theorem concurrent_calls_interleave (world : World) (id : Nat) (programs : List (List Call))
    (schedule : List Nat) (sharable : world.Sharable id) :
    let crowd := (Crowd.gather id programs world).run World.emit schedule
    let result := fun call : Call => (world.send World.emit id call.frame).1
    ∃ (choice : Target) (writes : List (Nat × Call)),
      (((world.obtain World.emit id).loggers id).dispatch = .chosen choice ∧
        (crowd.world.requests = world.requests ∨
          crowd.world.requests = world.requests ++ requestsOf id) ∧
        (∀ thread ∈ crowd.threads, thread.isReady = true ∨ thread.answers ≠ [] →
          ∃ target, (crowd.world.loggers id).dispatch = .chosen target ∧ target.rewound = choice) ∧
        crowd.world.stuck = world.stuck) ∧
      Crowd.Interleaves programs result writes crowd.threads ∧
      (∀ calls : List Call, (World.run (calls.map (Call.step id)) world).answers =
        calls.map fun call => .sent (result call)) ∧
      (writes ≠ [] →
        crowd.world = (World.run (writes.map fun write => write.2.step id) world).world) ∧
      (∀ number, choice = .memory number → ∀ channel,
        crowd.world.host.framesOf number channel = world.host.framesOf number channel ++
          (writes.filter fun write => write.2.frame.channel == channel).map
            fun write => write.2.frame.bytes) ∧
      ∀ devices slot number, choice = .devices devices → devices.Alone slot number →
        let stream := devices.stream slot (writes.map fun write => write.2.frame.record)
        crowd.world.host.files.content number =
          stream ++ (world.host.files.content number).drop stream.length := by
  intro crowd result
  obtain ⟨choice, requested, first⟩ := sharable.firstObtained
  obtain ⟨writes, held⟩ := (Crowd.accounts_gather world id programs).run first schedule
  rw [List.nil_append] at held
  have steps : (writes.map fun write => write.2.step id) =
      (writes.map Prod.snd).map (Call.step id) := by
    rw [List.map_map]
    rfl
  have bound : ∃ target, ((world.obtain World.emit id).loggers id).dispatch = .chosen target :=
    ⟨choice, first.bound⟩
  obtain ⟨once, unstuck⟩ := held.quiet first
  refine ⟨choice, writes, ⟨first.bound, once, fun thread member begun => ?_, unstuck⟩,
    held.threads, fun calls => ?_, fun some => ?_, ?_, ?_⟩
  · have gone := held.world_of_begun ⟨thread, member, begun⟩
    rw [steps] at gone
    rw [gone]
    exact (first.serving.run_calls (writes.map Prod.snd)).2.serving
  · by_cases none : calls = []
    · subst none
      rfl
    · rw [run_calls_ready id world calls bound none, first.serving.run_answers first.own]
      simp only [World.send, obtain_of_chosen _ id choice World.emit first.bound, result]
  · obtain ⟨_, none, _⟩ | gone := held.world
    · exact (some none).elim
    · rw [steps] at gone ⊢
      rw [run_calls_ready id world (writes.map Prod.snd) bound (by simpa using some)]
      exact gone
  · rintro number rfl channel
    rw [held.host_eq first, Host.writeAll_memory]
    simp only [Host.framesOf, Numbered.set_same, List.filter_append, List.map_append,
      List.map_map, List.filter_map]
    rfl
  · rintro devices slot number rfl alone
    have begins : world.host.Streams devices slot number [] (world.host.files.content number) :=
      ⟨alone, devices.offset_of_rewound (Target.devices.inj first.atStart) slot, rfl⟩
    obtain ⟨moved, written⟩ := begins.writeAll (writes.map fun write => write.2.frame)
    rw [← held.host_eq first, List.map_map, List.nil_append] at written
    exact written.content

/-- The second of two threads obtains the target last and writes first. The system device is missing,
so that main's file takes the records of both channels, and each thread's in its order. -/
theorem late_thread_overtakes_whole_records :
    let place := fun channel : Channel =>
      [Bytes.ofText "dev", Bytes.ofText "log", Bytes.ofText channel.deviceName]
    let files :=
      ((FileSystem.initial.apply (place .main) (.file (Bytes.ofText "0123456789ABCDEFG"))).apply
        (place .radio) (.file [])).apply (place .events) (.link (Bytes.ofText "radio"))
    let world := World.start files ⟨none, none⟩ .bare .bare
    let programs : List (List Call) :=
      [[.write .info "a" "1", .eventInt 1 2, .write .info "c" "3"],
        [.writeTo .system .warn "b" "2"]]
    let crowd := (Crowd.gather 0 programs world).run World.emit [0, 1, 1, 0, 0, 0, 0, 1, 0]
    let result := fun call : Call => (world.send World.emit 0 call.frame).1
    world.Sharable 0 ∧
    (∃ (devices : Devices Descriptor) (writes : List (Nat × Call)),
      devices.Alone .main 0 ∧ Crowd.Interleaves programs result writes crowd.threads ∧
      let stream := devices.stream .main (writes.map fun write => write.2.frame.record)
      crowd.world.host.files.content 0 =
        stream ++ (world.host.files.content 0).drop stream.length) ∧
    crowd.world.host.files.content 0 =
      [5] ++ Bytes.ofText "b\x002\x00" ++ [4] ++ Bytes.ofText "a\x001\x00" ++ [4] ++
        Bytes.ofText "c\x003\x00" ++ Bytes.ofText "FG" := by
  intro place files world programs crowd result
  have sharable : world.Sharable 0 := .new Config.default rfl
  let numbers : Devices Nat := { main := 0, radio := 1, events := 1, system := none }
  have openOn : numbers.OpenOn Config.default files :=
    ⟨by decide +kernel, by decide +kernel, by decide +kernel, by decide +kernel⟩
  have opened : ((world.obtain World.emit 0).loggers 0).dispatch =
      .chosen (.devices (numbers.descriptors (numbers.offsets []))) := by
    rw [← openOn.targetOf_eq]
    exact congrArg (fun made => (made.loggers 0).dispatch) (obtain_of_unopened 0 world rfl)
  have alone : (numbers.descriptors (numbers.offsets [])).Alone .main 0 := by
    refine ⟨rfl, fun channel => ?_⟩
    cases channel <;> decide
  obtain ⟨choice, writes, ⟨bound, _⟩, interleaves, _, _, _, stored⟩ :=
    concurrent_calls_interleave world 0 programs [0, 1, 1, 0, 0, 0, 0, 1, 0] sharable
  have same : choice = _ := Dispatch.chosen.inj (bound.symm.trans opened)
  have held := stored _ .main 0 same alone
  have sameCrowd : (Crowd.gather 0 programs world).run World.emit [0, 1, 1, 0, 0, 0, 0, 1, 0] =
      crowd := rfl
  rw [sameCrowd] at held
  have content : crowd.world.host.files.content 0 = [5] ++ Bytes.ofText "b\x002\x00" ++ [4] ++
      Bytes.ofText "a\x001\x00" ++ [4] ++ Bytes.ofText "c\x003\x00" ++ Bytes.ofText "FG" := by
    decide +kernel
  exact ⟨sharable, ⟨_, writes, alone, interleaves, held⟩, content⟩

end KernelLog
