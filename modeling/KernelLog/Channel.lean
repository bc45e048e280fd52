import KernelLog.Bytes
/-!
# Channels

The kernel offers four log channels, each a device file of its own name in one directory.
-/
namespace KernelLog

/-- A kernel log channel. -/
inductive Channel
  | main
  | radio
  | events
  | system
  deriving DecidableEq, Repr

namespace Channel

/-- All channels in the order of their codes, which is also the order in which they are opened. -/
def all : List Channel := [.main, .radio, .events, .system]

/-- The number callers name a channel by. -/
def code : Channel → UInt32
  | main => 0
  | radio => 1
  | events => 2
  | system => 3

/-- The channel with a given number. -/
def ofCode? (code : UInt32) : Option Channel :=
  all.find? (·.code == code)

/-- The name of a channel's device file. -/
def deviceName : Channel → String
  | main => "main"
  | radio => "radio"
  | events => "events"
  | system => "system"

/-- The channel whose device file has a given name. -/
def ofDeviceName? (name : String) : Option Channel :=
  all.find? (·.deviceName == name)

/-- The name of a channel. -/
def name : Channel → String
  | main => "Main"
  | radio => "Radio"
  | events => "Events"
  | system => "System"

end Channel
end KernelLog
