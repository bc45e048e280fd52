import KernelLog.Proofs.CallRuns

/-!
# Answers hang on the choice of a target

What a target of the library's own answers to a frame tells what it was opened on,
and nothing of what has been written to it. So calls that find a target of one
choice are answered alike, in whatever order they are made.

`World.FirstObtained` says what the first caller of a logger gets: a target as it was
chosen. All later callers find the same one, moved on or not.
-/

namespace KernelLog

/-- A target that is the library's own. Of one from outside nothing is known. -/
def Target.IsOwn : Target → Prop
  | .devices _ | .nothing | .memory _ => True
  | .custom _ => False

/-- Devices that were opened alike are on the same files and devices. -/
theorem Devices.sink_of_rewound (devices others : Devices Descriptor)
    (alike : devices.rewound = others.rewound) (channel : Channel) :
    (devices.get channel).sink = (others.get channel).sink := by
  obtain ⟨main, radio, events, system⟩ := devices
  obtain ⟨main', radio', events', system'⟩ := others
  simp only [Devices.rewound, Descriptor.rewound, Devices.mk.injEq, Descriptor.mk.injEq,
    and_true] at alike
  obtain ⟨sameMain, sameRadio, sameEvents, sameSystem⟩ := alike
  cases channel with
  | main => exact sameMain
  | radio => exact sameRadio
  | events => exact sameEvents
  | system =>
    cases system <;> cases system' <;>
      simp_all [Devices.get, Descriptor.rewound]

/-- Devices that are as they were opened are at the start of their files. -/
theorem Devices.offset_of_rewound (devices : Devices Descriptor)
    (atStart : devices.rewound = devices) (channel : Channel) :
    (devices.get channel).offset = 0 := by
  rw [← atStart]
  obtain ⟨main, radio, events, system⟩ := devices
  cases channel <;> cases system <;> rfl

/-- Two targets that were chosen alike answer alike, wherever they have moved on to and whatever has
been written. -/
theorem Host.answer_of_rewound (host other : Host) (target moved : Target) (frame : Frame)
    (own : target.IsOwn) (alike : moved.rewound = target.rewound) :
    (other.write moved frame).answer = (host.write target frame).answer := by
  cases target with
  | custom number => exact own.elim
  | nothing =>
    cases moved with
    | nothing => rfl
    | devices _ | memory _ | custom _ => cases alike
  | memory number =>
    cases moved with
    | memory _ => rfl
    | devices _ | nothing | custom _ => cases alike
  | devices devices =>
    cases moved with
    | nothing | memory _ | custom _ => cases alike
    | devices others =>
      have same := others.sink_of_rewound devices (Target.devices.inj alike) frame.channel
      simp only [Host.write, FileSystem.write, same]
      cases (devices.get frame.channel).sink with
      | file number => rfl
      | device device => cases device <;> rfl

namespace World

section Calls

variable {config : Config} {choice : Target} {requested : List (Nat × Channel)} {id : Nat}
variable {world : World}

/-- A frame is answered alike in all worlds in which the logger has the target of one choice. -/
theorem Serving.answer_eq {others : List (Nat × Channel)} {other : World}
    (held : world.Serving config choice requested id)
    (alike : other.Serving config choice others id) (own : choice.IsOwn) (frame : Frame) :
    (other.send emit id frame).1 = (world.send emit id frame).1 := by
  obtain ⟨target, bound, same⟩ := held.serving
  obtain ⟨moved, otherBound, otherSame⟩ := alike.serving
  rw [send_of_chosen world id target emit frame bound,
    send_of_chosen other id moved emit frame otherBound]
  refine Host.answer_of_rewound _ _ _ _ _ ?_ (otherSame.trans same.symm)
  rw [← same] at own
  cases target with
  | custom number => exact own.elim
  | devices _ | nothing | memory _ => trivial

/-- Calls that are made one after another are each answered as if they were the first. -/
theorem Serving.run_answers (held : world.Serving config choice requested id)
    (own : choice.IsOwn) (calls : List Call) :
    (World.run (calls.map (Call.step id)) world).answers =
      calls.map fun call => .sent (world.send emit id call.frame).1 := by
  induction calls generalizing world with
  | nil => rfl
  | cons first rest inductionHypothesis =>
    have next := held.send id world first.frame
    have later := inductionHypothesis next
    have same : ∀ call : Call, ((world.send emit id first.frame).2.send emit id call.frame).1 =
        (world.send emit id call.frame).1 :=
      fun call => held.answer_eq next own call.frame
    simp only [same] at later
    simp only [List.map_cons, World.run, Call.step, World.step, refer, operate]
    exact congrArg _ later

/-- Calls keep the choice of a logger, and the process survives them. -/
theorem Serving.run_calls (held : world.Serving config choice requested id)
    (calls : List Call) :
    (World.run (calls.map (Call.step id)) world).aborted = false ∧
      (World.run (calls.map (Call.step id)) world).world.Serving config choice requested id := by
  obtain ⟨target, bound⟩ := held.bound
  refine ⟨by rw [World.run_calls world id target calls bound], ?_⟩
  exact run_keeps _ _ (List.forall_mem_map.mpr fun call _ _ now => now.send id _ call.frame)
    world held

/-- One more call after others is a write in the world that they leave. -/
theorem Serving.run_concat (held : world.Serving config choice requested id)
    (calls : List Call) (call : Call) :
    (World.run ((calls ++ [call]).map (Call.step id)) world).world =
      ((World.run (calls.map (Call.step id)) world).world.deliver id call.frame).2 := by
  obtain ⟨survived, still⟩ := held.run_calls calls
  obtain ⟨target, bound, _⟩ := still.serving
  have ready := obtain_of_chosen _ id target emit bound
  rw [List.map_append, run_append _ _ _ survived]
  simp only [List.map_cons, List.map_nil, World.run, Call.step, World.step, refer, operate,
    World.send]
  rw [ready]

end Calls

/-- A logger that callers find new, or on a memory. -/
inductive Sharable (id : Nat) (world : World) : Prop
  | new (config : Config) (fresh : world.loggers id = Logger.new config)
  | memory (number : Nat) (bound : (world.loggers id).dispatch = .chosen (.memory number))

/-- What the first caller gets of a logger: a target that is as it was chosen, for which all devices
were requested or none, and the host as it was. -/
structure FirstObtained (id : Nat) (choice : Target) (requested : List (Nat × Channel))
    (start : World) : Prop where
  serving : (start.obtain emit id).Serving (start.loggers id).config choice requested id
  bound : ((start.obtain emit id).loggers id).dispatch = .chosen choice
  own : choice.IsOwn
  atStart : choice.rewound = choice
  once : requested = start.requests ∨ requested = start.requests ++ requestsOf id
  sameHost : (start.obtain emit id).host = start.host
  unstuck : (start.obtain emit id).stuck = start.stuck

/-- What opening the devices leads to is the library's own. -/
theorem targetOf_isOwn (attempts : Attempts Descriptor) : (Logger.targetOf attempts).IsOwn := by
  unfold Logger.targetOf
  split <;> trivial

/-- The first caller finds a target. -/
theorem Sharable.firstObtained {id : Nat} {start : World} (sharable : start.Sharable id) :
    ∃ choice requested, start.FirstObtained id choice requested := by
  cases sharable with
  | new config fresh =>
    have waiting : start.Waiting (start.loggers id).config start.requests id := by
      refine ⟨rfl, ?_, rfl⟩
      rw [fresh]
      rfl
    have opened := obtain_of_unopened id start waiting.waiting
    obtain ⟨serving, sameHost⟩ := waiting.obtain id start
    have attempts : (Logger.new (start.loggers id).config).tryOpen start.host.files =
        (start.loggers id).tryOpen start.host.files := by
      rw [fresh]
      rfl
    rw [attempts] at serving
    refine ⟨_, _, serving, ?_, targetOf_isOwn _, ?_, .inr rfl, sameHost, ?_⟩
    · rw [opened]
      simp only [boundTo_logger, Logger.withDispatch]
    · rw [fresh]
      exact Logger.rewound_targetOf config start.host.files
    · rw [opened]
      rfl
  | memory number bound =>
    have same := obtain_of_chosen start id _ emit bound
    refine ⟨.memory number, start.requests, ?_, ?_, trivial, rfl, .inl rfl, ?_, ?_⟩
    · rw [same]
      exact ⟨rfl, ⟨_, bound, rfl⟩, rfl⟩
    · rw [same]
      exact bound
    · rw [same]
    · rw [same]

end World

end KernelLog
