import KernelLog.Channel
import KernelLog.IoError
/-!
# Opening the devices

The device files of all four channels are tried, one after the other, whatever becomes of the
earlier ones. Main, radio and events have to open; the system channel may fail, and its records are
then written through the main channel's descriptor. The choice depends on nothing but the four
results, of whatever kind an open device is.
-/
namespace KernelLog

/-- The open devices of the channels. Without one of its own, the system channel uses main's. -/
structure Devices (δ : Type) where
  main : δ
  radio : δ
  events : δ
  system : Option δ
  deriving DecidableEq, Repr

namespace Devices

/-- The device that a channel's records go to. -/
def get {δ : Type} (devices : Devices δ) : Channel → δ
  | .main => devices.main
  | .radio => devices.radio
  | .events => devices.events
  | .system => devices.system.getD devices.main

/-- Puts another device in the place of the one that a channel's records go to. -/
def set {δ : Type} (devices : Devices δ) (channel : Channel) (device : δ) : Devices δ :=
  match channel, devices.system with
  | .main, _ => { devices with main := device }
  | .radio, _ => { devices with radio := device }
  | .events, _ => { devices with events := device }
  | .system, some _ => { devices with system := some device }
  | .system, none => { devices with main := device }

end Devices

/-- What became of opening the device of each channel. -/
structure Attempts (δ : Type) where
  main : Except IoError δ
  radio : Except IoError δ
  events : Except IoError δ
  system : Except IoError δ

namespace Attempts

/-- Tries to open the four devices: main, radio, events, system, in this order. -/
def gather {m : Type → Type} [Monad m] {δ : Type} (tryOpen : Channel → m (Except IoError δ)) :
    m (Attempts δ) := do
  let main ← tryOpen .main
  let radio ← tryOpen .radio
  let events ← tryOpen .events
  let system ← tryOpen .system
  pure { main := main, radio := radio, events := events, system := system }

/-- The devices to write to, if main, radio and events are open. -/
def devices? {δ : Type} (attempts : Attempts δ) : Option (Devices δ) :=
  match attempts.main, attempts.radio, attempts.events with
  | .ok main, .ok radio, .ok events =>
    some { main := main, radio := radio, events := events, system := attempts.system.toOption }
  | _, _, _ => none

/-- The reason why the device of a channel did not open. -/
def failure? {δ : Type} : Except IoError δ → Option IoError
  | .ok _ => none
  | .error cause => some cause

/-- The channels that had to open and did not, with the reasons. -/
def failures {δ : Type} (attempts : Attempts δ) : List (Channel × IoError) :=
  ((failure? attempts.main).map (Channel.main, ·)).toList ++
    ((failure? attempts.radio).map (Channel.radio, ·)).toList ++
    ((failure? attempts.events).map (Channel.events, ·)).toList

end Attempts
end KernelLog
