import KernelLog.Call
import KernelLog.Devices
import KernelLog.Error
import KernelLog.FileSystem
/-!
# Where frames go

A logger writes every frame to one target: the open devices, a memory that keeps frames, a writer
supplied from outside, or nothing at all. `Host` holds what targets write to, and `Host.write` is
the one step in which a frame leaves the library: it is written whole or not at all, and what the
target answers is the answer.
-/
namespace KernelLog

/-- A family of things by number. -/
abbrev Numbered (α : Type) := Nat → α

/-- The family in which a number stands for another thing. -/
def Numbered.set {α : Type} (family : Numbered α) (number : Nat) (thing : α) : Numbered α :=
  fun other => if other = number then thing else family other

namespace Numbered

variable {α : Type}

/-- The number that was set stands for the thing it was set to. -/
@[simp] theorem set_same (family : Numbered α) (number : Nat) (thing : α) :
    family.set number thing number = thing := by
  simp [Numbered.set]

/-- The other numbers stand for what they stood for. -/
theorem set_other (family : Numbered α) (number other : Nat) (thing : α)
    (different : other ≠ number) : family.set number thing other = family other := by
  simp [Numbered.set, different]

/-- Of two things set for one number, the first leaves no trace. -/
@[simp] theorem set_set (family : Numbered α) (number : Nat) (first second : α) :
    (family.set number first).set number second = family.set number second := by
  funext other
  by_cases same : other = number <;> simp [Numbered.set, same]

/-- Setting a number for what it stands for already changes nothing. -/
@[simp] theorem set_self (family : Numbered α) (number : Nat) :
    family.set number (family number) = family := by
  funext other
  by_cases same : other = number <;> simp [Numbered.set, same]

end Numbered

/-- A writer supplied from outside. It may answer anything, depending on all it has received. -/
structure CustomWriter where
  answer : (received : List Frame) → Frame → Except Error Nat
  isAvailable : Bool
  received : List Frame

/-- What the frames of a logger are written to. -/
inductive Target
  /-- The devices of the channels. -/
  | devices (opened : Devices Descriptor)
  /-- Nothing: every write fails. -/
  | nothing
  /-- The memory of a given number. -/
  | memory (number : Nat)
  /-- The custom writer of a given number. -/
  | custom (number : Nat)
  deriving DecidableEq

/-- What targets write to: files, memories that keep whole frames in the order of writing, and
custom writers. -/
structure Host where
  files : FileSystem
  memories : Numbered (List (Channel × Bytes))
  customs : Numbered CustomWriter

namespace Host

/-- The outcome of writing a frame. -/
structure Written where
  answer : Except Error Nat
  target : Target
  host : Host

/-- Writes a frame to a target. -/
def write (host : Host) (target : Target) (frame : Frame) : Written :=
  match target with
  | .devices devices =>
    match host.files.write (devices.get frame.channel) frame.bytes with
    | .ok (descriptor, files) =>
      { answer := .ok frame.size
        target := .devices (devices.set frame.channel descriptor)
        host := { host with files := files } }
    | .error cause => { answer := .error (.io cause), target := target, host := host }
  | .nothing => { answer := .error .unavailable, target := target, host := host }
  | .memory number =>
    let kept := host.memories number ++ [(frame.channel, frame.bytes)]
    { answer := .ok frame.size
      target := target
      host := { host with memories := host.memories.set number kept } }
  | .custom number =>
    let writer := host.customs number
    let told := { writer with received := writer.received ++ [frame] }
    { answer := writer.answer writer.received frame
      target := target
      host := { host with customs := host.customs.set number told } }

/-- Whether a target takes frames at all. -/
def isAvailable (host : Host) : Target → Bool
  | .devices _ => true
  | .nothing => false
  | .memory _ => true
  | .custom number => (host.customs number).isAvailable

/-- The frames that a memory holds of a channel, oldest first. -/
def framesOf (host : Host) (number : Nat) (channel : Channel) : List Bytes :=
  ((host.memories number).filter (·.1 == channel)).map (·.2)

/-- Forgets the frames of a memory. -/
def clear (host : Host) (number : Nat) : Host :=
  { host with memories := host.memories.set number [] }

end Host
end KernelLog
