import KernelLog.Config
import KernelLog.Host
import KernelLog.Text.Quoted
/-!
# Loggers

A logger has a configuration and a target, which is chosen once. A logger of the devices has no
target until it first needs one; while its devices are being opened it has none either, and nobody
else can open them in the meantime. Whether the main device can be written to is asked apart from
that, and also only once.
-/
namespace KernelLog

/-- Whether a logger has its target. -/
inductive Dispatch
  /-- The devices have not been needed so far. -/
  | unopened
  /-- The devices are being opened. -/
  | opening
  /-- The target is chosen, once and for all. -/
  | chosen (target : Target)
  deriving DecidableEq

/-- A logger. `mainWritable` remembers the answer to whether the main device can be written to. -/
structure Logger where
  config : Config
  dispatch : Dispatch
  mainWritable : Option Bool
  deriving DecidableEq

namespace Logger

/-- A logger that opens the devices of its configuration when it first needs them. -/
def new (config : Config) : Logger where
  config := config
  dispatch := .unopened
  mainWritable := none

/-- A logger with a given target, which opens no devices. -/
def withTarget (config : Config) (target : Target) : Logger where
  config := config
  dispatch := .chosen target
  mainWritable := none

/-- The same logger with its target in another state. -/
def withDispatch (logger : Logger) (dispatch : Dispatch) : Logger :=
  { logger with dispatch := dispatch }

/-- Whether the target is chosen. -/
def isInitialized (logger : Logger) : Bool :=
  match logger.dispatch with
  | .chosen _ => true
  | .unopened => false
  | .opening => false

/-- The description of a logger: its directory, quoted, and whether its target is chosen. -/
def describe (logger : Logger) : String :=
  "Logger \x7b device_dir: " ++ Text.Quoted.bytes logger.config.deviceDir ++ ", initialized: " ++
    (if logger.isInitialized then "true" else "false") ++ " \x7d"

/-- What becomes of opening the devices of a logger, all in the same file system. -/
def tryOpen (logger : Logger) (files : FileSystem) : Attempts Descriptor :=
  (Attempts.gather fun channel =>
    (pure (files.openForWriting (logger.config.devicePath channel)) :
      Id (Except IoError Descriptor))).run

/-- The target that opening the devices leads to. -/
def targetOf (attempts : Attempts Descriptor) : Target :=
  match attempts.devices? with
  | some devices => .devices devices
  | none => .nothing

/-- Whether the main device can be written to in a file system. -/
def isMainWritable (logger : Logger) (files : FileSystem) : Bool :=
  (files.openForWriting (logger.config.devicePath .main)).toBool

end Logger
end KernelLog
