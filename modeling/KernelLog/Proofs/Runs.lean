import KernelLog.Process

/-!
# Runs taken apart

A run stops where the process is aborted, and otherwise goes on with the steps that
are left. What every step keeps is kept by a run of any length, whether it is cut
short or not.
-/

namespace KernelLog

/-- The world that a step leaves. -/
def Outcome.world : Outcome → World
  | .answered _ after => after
  | .aborted last => last

/-- Whether the process goes on after a step. -/
def Outcome.Survived : Outcome → Prop
  | .answered _ _ => True
  | .aborted _ => False

namespace World

/-- A run that the process survives goes on with the steps that follow it. -/
theorem run_append (first second : List Step) (world : World)
    (survived : (run first world).aborted = false) :
    run (first ++ second) world =
      { run second (run first world).world with
        answers := (run first world).answers ++
          (run second (run first world).world).answers } := by
  induction first generalizing world with
  | nil => rfl
  | cons step rest inductionHypothesis =>
    simp only [List.cons_append, run] at survived ⊢
    cases taken : world.step step with
    | aborted last => simp [taken] at survived
    | answered answer after =>
      simp only [taken] at survived ⊢
      rw [inductionHypothesis after survived]
      rfl

/-- A run goes through a step in its middle: what was answered before stands before its answer, and
what follows is the run on the world that it leaves. -/
theorem run_through (before later : List Step) (step : Step) (world after : World) (answer : Answer)
    (survived : (run before world).aborted = false)
    (taken : (run before world).world.step step = .answered answer after) :
    run (before ++ step :: later) world =
      { run later after with
        answers := (run before world).answers ++ answer :: (run later after).answers } := by
  rw [run_append before _ world survived]
  simp only [run, taken]

/-- A run ends at a step in its middle that ends the process: nothing is answered to that step, and
none of those that follow it is taken. -/
theorem run_ended (before later : List Step) (step : Step) (world last : World)
    (survived : (run before world).aborted = false)
    (ended : (run before world).world.step step = .aborted last) :
    run (before ++ step :: later) world =
      { answers := (run before world).answers, world := last, aborted := true } := by
  rw [run_append before _ world survived]
  simp only [run, ended, List.append_nil]

/-- A run that ends the process takes none of the steps that follow it. -/
theorem run_append_aborted (first second : List Step) (world : World)
    (ended : (run first world).aborted = true) :
    run (first ++ second) world = run first world := by
  induction first generalizing world with
  | nil => cases ended
  | cons step rest inductionHypothesis =>
    simp only [List.cons_append, run] at ended ⊢
    cases taken : world.step step with
    | aborted last => rfl
    | answered answer after =>
      simp only [taken] at ended ⊢
      rw [inductionHypothesis after ended]

/-- What each step of a run keeps, the run keeps. -/
theorem run_keeps (invariant : World → Prop) (steps : List Step)
    (kept : ∀ step ∈ steps, ∀ world, invariant world → invariant (world.step step).world)
    (world : World) (held : invariant world) : invariant (run steps world).world := by
  induction steps generalizing world with
  | nil => exact held
  | cons step rest inductionHypothesis =>
    rw [List.forall_mem_cons] at kept
    have next : invariant (world.step step).world := kept.1 world held
    simp only [run]
    cases taken : world.step step <;> rw [taken] at next
    case aborted last => exact next
    case answered answer after => exact inductionHypothesis kept.2 after next

/-- The process survives a run of which it survives every step. -/
theorem run_survived (steps : List Step)
    (survives : ∀ step ∈ steps, ∀ world : World, (world.step step).Survived) (world : World) :
    (run steps world).aborted = false := by
  induction steps generalizing world with
  | nil => rfl
  | cons step rest inductionHypothesis =>
    rw [List.forall_mem_cons] at survives
    have next : (world.step step).Survived := survives.1 world
    simp only [run]
    cases taken : world.step step <;> rw [taken] at next
    case aborted last => exact next.elim
    case answered answer after => exact inductionHypothesis survives.2 after

end World
end KernelLog
