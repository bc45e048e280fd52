import KernelLog.Process

/-!
# Writing through a chosen target

Once a logger has its target, writing a frame is one step of the host: the answer
is the target's, and nothing changes but the target and what targets write to.
`send_of_chosen` states that law. A run of writes is then a walk of the host,
`Host.writeAll`, whatever the target is.
-/

namespace KernelLog

/-- What becomes of frames that are written one after another. -/
structure Host.WrittenAll where
  answers : List (Except Error Nat)
  target : Target
  host : Host

/-- Writes frames to a target one after another, in their order, whatever the answers are. -/
def Host.writeAll (host : Host) (target : Target) : List Frame → Host.WrittenAll
  | [] => { answers := [], target := target, host := host }
  | frame :: rest =>
    let written := host.write target frame
    let later := written.host.writeAll written.target rest
    { later with answers := written.answer :: later.answers }

/-- Every frame has its answer. -/
theorem Host.length_answers (host : Host) (target : Target) (frames : List Frame) :
    (host.writeAll target frames).answers.length = frames.length := by
  induction frames generalizing host target with
  | nil => rfl
  | cons frame rest inductionHypothesis =>
    simp only [writeAll, List.length_cons, inductionHypothesis]

namespace World

/-- The world in which a logger has a target and the host is a given one, and all else is as it
was. -/
def boundTo (world : World) (id : Nat) (target : Target) (host : Host) : World :=
  { world.setLogger id ((world.loggers id).withDispatch (.chosen target)) with host := host }

section Bound

variable (world : World) (id : Nat) (target : Target) (host : Host)

/-- The host is the one that came with the target. -/
@[simp] theorem boundTo_host : (world.boundTo id target host).host = host := rfl

/-- The logger has the target, and nothing else about it has changed. -/
@[simp] theorem boundTo_logger : (world.boundTo id target host).loggers id =
    (world.loggers id).withDispatch (.chosen target) :=
  Numbered.set_same _ _ _

/-- Of two targets given to a logger, the first leaves no trace. -/
theorem boundTo_again (first : Target) (before : Host) :
    (world.boundTo id first before).boundTo id target host = world.boundTo id target host := by
  simp [boundTo, setLogger, Logger.withDispatch]

/-- A logger that is given the target it has, on the same host, changes nothing. -/
theorem boundTo_self (bound : (world.loggers id).dispatch = .chosen target) :
    world.boundTo id target world.host = world := by
  have same : (world.loggers id).withDispatch (.chosen target) = world.loggers id := by
    rw [← bound]
    rfl
  simp [boundTo, setLogger, same]

/-- A logger that has its target opens nothing. -/
theorem obtain_of_chosen (emit : Emit) (bound : (world.loggers id).dispatch = .chosen target) :
    world.obtain emit id = world := by
  simp only [World.obtain, bound]

/-- A frame that is written on a logger with a target is written to that target, once, and the
target's answer is the answer. -/
theorem send_of_chosen (emit : Emit) (frame : Frame)
    (bound : (world.loggers id).dispatch = .chosen target) :
    world.send emit id frame =
      ((world.host.write target frame).answer,
        world.boundTo id (world.host.write target frame).target
          (world.host.write target frame).host) := by
  simp only [send, obtain_of_chosen world id target emit bound, deliver, bound]
  rfl

/-- A frame for which a logger gets its target is written as if the logger had had it before. -/
theorem send_ready (emit : Emit) (frame : Frame)
    (bound : ((world.obtain emit id).loggers id).dispatch = .chosen target) :
    world.send emit id frame = (world.obtain emit id).send emit id frame := by
  simp only [send, obtain_of_chosen (world.obtain emit id) id target emit bound]

end Bound

end World
end KernelLog
