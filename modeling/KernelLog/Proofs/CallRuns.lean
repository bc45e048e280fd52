import KernelLog.Proofs.LoggerLives
import KernelLog.Proofs.SubmittedRecords

/-!
# Runs of calls

The calls on one logger, made one after another, are a walk of the host over their
frames. A logger that has no target yet gets it for the first call; it makes no
difference to the run if it has got it before.
-/

namespace KernelLog

/-- The step in which a call is made on a logger. -/
def Call.step (id : Nat) (call : Call) : Step := .operate (.numbered id) (.send call)

/-- Calls on a logger that has its target are a walk of the host over their frames. -/
theorem World.run_calls (world : World) (id : Nat) (target : Target) (calls : List Call)
    (bound : (world.loggers id).dispatch = .chosen target) :
    let written := world.host.writeAll target (calls.map Call.frame)
    run (calls.map (Call.step id)) world =
      { answers := written.answers.map Answer.sent
        world := world.boundTo id written.target written.host
        aborted := false } := by
  intro written
  have reaching : ∀ submission ∈ calls.map Submission.call, submission.Reaches id :=
    List.forall_mem_map.mpr fun _ _ => trivial
  have walked := Submission.run_of_chosen world id target (calls.map .call) bound reaching
  have steps : (calls.map Submission.call).map (Submission.step id) = calls.map (Call.step id) :=
    List.map_map
  have frames : (calls.map Submission.call).map Submission.expected = calls.map Call.frame := by
    simp only [List.map_map, Function.comp_def, ← Call.frame_expected]
  have length : written.answers.length = calls.length := by
    rw [Host.length_answers, List.length_map]
  have told : List.zipWith Submission.told (calls.map Submission.call) written.answers =
      written.answers.map Answer.sent :=
    List.ext_getElem (by simp [length]) (by simp [Submission.told])
  simp only [steps, frames] at walked
  rw [walked, told]

/-- A call on a logger that has its target is one write to that target. -/
theorem World.step_call (world : World) (id : Nat) (target : Target) (call : Call)
    (bound : (world.loggers id).dispatch = .chosen target) :
    let written := world.host.write target call.frame
    world.step (call.step id) =
      .answered (.sent written.answer) (world.boundTo id written.target written.host) := by
  simp only [Call.step, World.step, refer, operate,
    send_of_chosen world id target emit call.frame bound]

/-- A call for which a logger has to get its target goes as if the logger had had it before. -/
theorem World.step_call_ready (id : Nat) (world : World) (call : Call)
    (bound : ∃ target, ((world.obtain emit id).loggers id).dispatch = .chosen target) :
    world.step (call.step id) = (world.obtain emit id).step (call.step id) :=
  operate_ready id world (.send call) rfl bound

/-- Calls for which a logger has to get its target go as if the logger had had it before. -/
theorem World.run_calls_ready (id : Nat) (world : World) (calls : List Call)
    (bound : ∃ target, ((world.obtain emit id).loggers id).dispatch = .chosen target)
    (some : calls ≠ []) :
    run (calls.map (Call.step id)) world =
      run (calls.map (Call.step id)) (world.obtain emit id) := by
  cases calls with
  | nil => exact (some rfl).elim
  | cons first rest => simp only [List.map_cons, run, step_call_ready id world first bound]

end KernelLog
