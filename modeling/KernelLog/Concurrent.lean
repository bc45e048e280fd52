import KernelLog.World
/-!
# Concurrent callers

Several threads share one logger, each with a list of calls of its own. A call takes two steps, and
threads alternate between steps in any order. In the first step the thread obtains the target: the
first thread to get there opens the devices, and no other thread takes a step meanwhile that
concerns them. In the second step it writes its frame, whole.
-/
namespace KernelLog

/-- A thread: the calls it has yet to make, whether it has obtained the target for the first of
them, and the answers it has received. -/
structure Thread where
  calls : List Call
  isReady : Bool
  answers : List (Except Error Nat)

namespace Thread

/-- A thread that has yet to begin. -/
def begin (calls : List Call) : Thread where
  calls := calls
  isReady := false
  answers := []

end Thread

/-- Threads that share the logger of a given number, in a world. -/
structure Crowd where
  logger : Nat
  threads : List Thread
  world : World

namespace Crowd

/-- The crowd in which a thread takes its next step. A thread without calls has none. -/
def step (emit : Emit) (crowd : Crowd) (number : Nat) : Crowd :=
  match crowd.threads[number]? with
  | none => crowd
  | some thread =>
    match thread.calls, thread.isReady with
    | [], _ => crowd
    | _ :: _, false =>
      { crowd with
        threads := crowd.threads.set number { thread with isReady := true }
        world := crowd.world.obtain emit crowd.logger }
    | call :: rest, true =>
      let (answer, world) := crowd.world.deliver crowd.logger call.frame
      { crowd with
        threads := crowd.threads.set number
          { calls := rest, isReady := false, answers := thread.answers ++ [answer] }
        world := world }

/-- Lets threads take steps in the order of a schedule, which names the thread of each step. -/
def run (emit : Emit) (schedule : List Nat) (crowd : Crowd) : Crowd :=
  schedule.foldl (step emit) crowd

/-- The schedule in which every thread obtains the target of its first call before any writes. -/
def rush (count : Nat) : List Nat :=
  List.range count ++ List.range count

end Crowd
end KernelLog
