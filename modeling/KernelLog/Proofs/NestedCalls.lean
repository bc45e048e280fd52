import KernelLog.Proofs.ChosenTargets

/-!
# Calls within calls

A call on a logger may have something to report, and the facade calls a logger with
what it forwards. So a call could lead to another one within it, and that one to a
third. It does not get that far: all that a logger reports is the library's own, so
nothing that a facade does with other messages can matter to a call.

`guarded` is a facade that suffers no call on a logger, for the first one leaves the
world stuck. A call that reports to it goes as one that reports to the facade of the
process.
-/

namespace KernelLog.World

/-- A facade under which no logger may be called: the world is stuck as soon as one is. -/
def guarded : Emit := handing fun _ _ world => { world with stuck := true }

/-- A guarded facade keeps the library's own messages as any other. -/
theorem guarded_discreet : Discreet guarded := handing_discreet _

namespace Discreet

variable {nested : Emit} (discreet : Discreet nested)
include discreet

/-- A logger gets its target in the same way whatever discreet facade it reports to. -/
theorem obtain_eq (id : Nat) (world : World) : world.obtain nested id = world.obtain emit id := by
  simp only [obtain]
  split
  · simp only [discreet.emit_all _ _ (Attempts.reports_internal _ _),
      emit_discreet.emit_all _ _ (Attempts.reports_internal _ _)]
  · rfl
  · rfl

/-- A frame is sent in the same way, too. -/
theorem send_eq (id : Nat) (frame : Frame) (world : World) :
    world.send nested id frame = world.send emit id frame := by
  simp only [send, discreet.obtain_eq]

/-- The facade of the process calls loggers as if they reported to any other discreet one. -/
theorem emit_eq : emit = handing (calling nested) := by
  have nestedCalls : calling nested = calling emit := by
    funext bridge message world
    simp only [calling, discreet.send_eq]
  have ownCalls : calling (log 1) = calling emit := by
    funext bridge message world
    simp only [calling, (log_discreet 0).send_eq]
  rw [nestedCalls, ← ownCalls, ← log_succ]
  rfl

end Discreet

/-- Where a bridge is installed, the messages that the maximum level lets through go over it. -/
theorem emit_bridge (bridge : Bridge) (message : Message) (world : World)
    (installed : world.facade.backend = .bridge bridge) :
    emit message world =
      if world.facade.maxLevel.admits message.level then world.forward emit bridge message
      else world := by
  have handed : emit message world = handing (calling emit) message world := by
    rw [← emit_discreet.emit_eq]
  simp only [handed, handing, installed]
  rfl

/-- Room for messages that are nested deeper is never used. -/
theorem log_deeper (depth : Nat) : log (depth + 2) = emit := by
  rw [log_succ, (log_discreet depth).emit_eq]

end KernelLog.World
