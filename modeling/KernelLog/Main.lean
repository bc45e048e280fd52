import KernelLog.CommandLine.Run
/-!
# The command as a program

Reads the arguments, the environment and the configuration file, opens the real devices, and hands
everything to the library, which decides. Nothing is decided here.
-/
namespace KernelLog.CommandLine

/-- A failure of the system as the library knows it. -/
def failureOf : IO.Error → IoError
  | .noFileOrDirectory _ _ _ => .noSuchEntry
  | .inappropriateType _ number text => .other number.toNat text
  | .permissionDenied _ number text => .other number.toNat text
  | .resourceExhausted _ number text => .other number.toNat text
  | .invalidArgument _ number text => .other number.toNat text
  | .interrupted _ number text => .other number.toNat text
  | .resourceBusy number text => .other number.toNat text
  | .resourceVanished number text => .other number.toNat text
  | .hardwareFault number text => .other number.toNat text
  | .otherError number text => .other number.toNat text
  | unknown => .other 0 (toString unknown)

/-- The result of an action that may fail. -/
def attempt {α : Type} (action : IO α) : IO (Except IoError α) := do
  match ← action.toBaseIO with
  | .ok value => pure (.ok value)
  | .error error => pure (.error (failureOf error))

/-- The variables of the environment that matter. -/
def environment : IO Environment := do
  let configFile ← IO.getEnv "LIBLOG_CONFIG"
  let deviceDir ← IO.getEnv "LIBLOG_DEVICE_DIR"
  pure { configFile := configFile.map Bytes.ofText, deviceDir := deviceDir.map Bytes.ofText }

/-- The contents of the configuration file, if the environment names one. -/
def configFile (environment : Environment) : IO (Except IoError Bytes) :=
  match Environment.given environment.configFile with
  | none => pure (.ok [])
  | some path => attempt do
    let content ← IO.FS.readBinFile (Text.Utf8.decodeLossy path)
    pure content.toList

/-- Opens a device for writing, and neither makes it nor cuts it off. -/
def openDevice (path : Bytes) : IO (Except IoError IO.FS.Handle) :=
  attempt (IO.FS.Handle.mk (Text.Utf8.decodeLossy path) .readWrite)

/-- Writes a frame to an open device in one go. -/
def writeFrame (device : IO.FS.Handle) (frame : Frame) : IO (Except IoError Nat) := attempt do
  device.write ⟨frame.bytes.toArray⟩
  device.flush
  pure frame.size

/-- Writes the record of a request to the devices of a configuration. -/
def writeRequest (request : Request) (config : Config) : IO (Except Error Nat) := do
  let attempts ← Attempts.gather fun channel => openDevice (config.devicePath channel)
  match attempts.devices? with
  | none => pure (.error .unavailable)
  | some devices =>
    let frame := request.call.frame
    pure ((← writeFrame (devices.get frame.channel) frame).mapError .io)

/-- Shows a report and gives the exit status. -/
def conclude (report : Report) : IO UInt32 := do
  IO.print report.output
  IO.eprint report.errors
  pure (UInt32.ofNat report.status)

end KernelLog.CommandLine

open KernelLog KernelLog.CommandLine in
/-- Runs the command. -/
def main (arguments : List String) : IO UInt32 := do
  match Request.ofArguments (arguments.map Bytes.ofText) with
  | .error stop => conclude (Report.ofStop stop)
  | .ok request =>
    let environment ← CommandLine.environment
    let file ← configFile environment
    match request.config environment (fun _ => file) with
    | .error cause => conclude (Report.ofResult .bare (.error (.config cause)))
    | .ok config => conclude (Report.ofResult .bare (← writeRequest request config))
