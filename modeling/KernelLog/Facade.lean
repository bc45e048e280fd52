import KernelLog.Call
import KernelLog.Message
/-!
# The facade and the bridge

The messages of a process pass through one facade, which hands those up to a maximum level to a
backend. A backend is installed once and stays; installing a bridge also sets the maximum level to
what the bridge lets through.

A bridge turns messages into records of a logger. It drops the library's own reports whatever its
filter says: a report on opening the devices of its own logger would otherwise ask for the target
that is only just being chosen.
-/
namespace KernelLog

/-- How a bridge chooses the tag of a record. -/
inductive TagMode
  /-- The target of the message as it is. -/
  | target
  /-- The root of the target. -/
  | root
  /-- The same tag for every record. -/
  | fixed (tag : String)
  deriving DecidableEq, Repr

/-- A way from the facade to a logger, given by its number. Without a channel, records go where
records without a chosen channel go. -/
structure Bridge where
  logger : Nat
  tagMode : TagMode := .root
  channel : Option Channel := none
  filter : LevelFilter := .upTo .info
  deriving DecidableEq, Repr

namespace Bridge

/-- Whether a bridge forwards messages of a level and target. -/
def enabled (bridge : Bridge) (level : Level) (target : String) : Bool :=
  bridge.filter.admits level && !Message.isInternal target

/-- The tag of the record of a message with a given target. -/
def tagFor (bridge : Bridge) (target : String) : String :=
  match bridge.tagMode with
  | .target => target
  | .root => Message.root target
  | .fixed tag => tag

/-- The frame of the record of a message. -/
def frame (bridge : Bridge) (message : Message) : Frame :=
  Frame.ofLine bridge.channel (Priority.ofLevel message.level) (bridge.tagFor message.target)
    (Line.format message.pieces)

end Bridge

/-- What takes the messages that the facade lets through. -/
inductive Backend
  /-- Nothing is installed. -/
  | absent
  /-- A backend that is not the library's and keeps every message it is handed. -/
  | collector
  | bridge (bridge : Bridge)
  deriving DecidableEq, Repr

/-- The facade of a process, and the messages that a collector has been handed. -/
structure Facade where
  backend : Backend
  maxLevel : LevelFilter
  collected : List Message
  deriving DecidableEq

/-- Why a backend was not installed. -/
inductive InstallError
  /-- There is one already. -/
  | alreadyInstalled
  deriving DecidableEq, Repr

/-- The text of an error. -/
def InstallError.message : InstallError → String
  | alreadyInstalled =>
    "attempted to set a logger after the logging system was already initialized"

namespace Facade

/-- The facade of a process that has installed nothing. -/
def bare : Facade where
  backend := .absent
  maxLevel := .off
  collected := []

/-- The facade with a collector that is handed every message. -/
def collecting : Facade where
  backend := .collector
  maxLevel := .upTo .trace
  collected := []

/-- Takes a bridge for the backend, if there is none. The maximum level stays as it is. -/
def setBackend (facade : Facade) (bridge : Bridge) : Except InstallError Facade :=
  match facade.backend with
  | .absent => .ok { facade with backend := .bridge bridge }
  | .collector | .bridge _ => .error .alreadyInstalled

/-- Sets the maximum level, whatever is installed. -/
def setMaxLevel (facade : Facade) (filter : LevelFilter) : Facade :=
  { facade with maxLevel := filter }

/-- Installs a bridge: it becomes the backend, and then the maximum level is set to what it lets
through. Where it cannot become the backend, the maximum level is not touched. -/
def install (facade : Facade) (bridge : Bridge) : Except InstallError Facade := do
  let taken ← facade.setBackend bridge
  pure (taken.setMaxLevel bridge.filter)

/-- Where nothing is installed, a bridge is, and with it what it lets through. -/
theorem install_absent (facade : Facade) (bridge : Bridge) (absent : facade.backend = .absent) :
    facade.install bridge =
      .ok { facade with backend := .bridge bridge, maxLevel := bridge.filter } := by
  simp only [install, setBackend, absent]
  rfl

/-- Where something is installed, no bridge is. -/
theorem install_taken (facade : Facade) (bridge : Bridge) (taken : facade.backend ≠ .absent) :
    facade.install bridge = .error .alreadyInstalled := by
  cases backend : facade.backend with
  | absent => exact (taken backend).elim
  | collector | bridge installed =>
    simp only [install, setBackend, backend]
    rfl

end Facade
end KernelLog
