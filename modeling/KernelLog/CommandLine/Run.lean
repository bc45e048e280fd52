import KernelLog.CommandLine.Arguments
import KernelLog.Process
/-!
# The command

One record is written per run, on a logger of its own: to the main channel, unless a channel is
named or the tag leads elsewhere. The configuration is that of the environment, which has to be
valid even if the directory is given in the arguments; that directory is then taken as it is.
-/
namespace KernelLog.CommandLine

namespace Request

/-- The text of the record: the words with a space between each two. -/
def message (request : Request) : String :=
  " ".intercalate request.words

/-- The call that writes the record. -/
def call (request : Request) : Call :=
  match request.channel with
  | some channel => .writeTo channel request.priority request.tag request.message
  | none => .write request.priority request.tag request.message

/-- The configuration of the logger. -/
def config (request : Request) (environment : Environment)
    (read : Bytes → Except IoError Bytes) : Except ConfigError Config := do
  let config ← environment.config read
  match request.deviceDir with
  | some directory => pure { config with deviceDir := directory }
  | none => pure config

/-- Writes the record, in a process whose facade has no backend. -/
def write (request : Request) (environment : Environment) (wording : DocumentWording)
    (files : FileSystem) : Except Error Nat × FileSystem :=
  match request.config environment files.read with
  | .error cause => (.error (.config cause), files)
  | .ok config =>
    let start := World.start files environment wording Facade.bare
    let (id, world) := start.create config .devices
    let (result, after) := world.send World.emit id request.call.frame
    (result, after.host.files)

end Request

/-- What the command shows and how it ends. -/
structure Report where
  status : Nat
  output : String
  errors : String
  deriving DecidableEq, Repr

namespace Report

/-- The text that help asks for. -/
def helpText : String :=
  String.join (List.map (· ++ "\n")
    ["Write a text record to the kernel log",
      "",
      "Usage: log [OPTIONS] <MESSAGE>...",
      "",
      "Arguments:",
      "  <MESSAGE>...  ",
      "",
      "Options:",
      "  -p <PRIORITY>                  Priority: v, d, i, w, e or f [default: i]",
      "  -t <TAG>                       [default: log]",
      "  -b <CHANNEL>                   Channel: main, radio, events or system",
      "      --device-dir <DEVICE_DIR>  Device directory (overrides LIBLOG_DEVICE_DIR)",
      "  -h, --help                     Print help",
      "  -V, --version                  Print version"])

/-- The text that the version flag asks for. -/
def versionText : String := "log 0.1.0\n"

/-- The report of a run that ended at an argument: a flag is a success, a mistake is not. -/
def ofStop : Stop → Report
  | .flag .help => { status := 0, output := helpText, errors := "" }
  | .flag .version => { status := 0, output := versionText, errors := "" }
  | .usage error => { status := 2, output := "", errors := error.message }

/-- The report of a run that tried to write: a record that is written is not spoken of. -/
def ofResult (wording : DocumentWording) : Except Error Nat → Report
  | .ok _ => { status := 0, output := "", errors := "" }
  | .error cause =>
    { status := 1, output := "", errors := "log: " ++ cause.message wording ++ "\n" }

end Report

/-- Runs the command with its arguments in an environment. -/
def run (arguments : List Bytes) (environment : Environment) (wording : DocumentWording)
    (files : FileSystem) : Report × FileSystem :=
  match Request.ofArguments arguments with
  | .error stop => (Report.ofStop stop, files)
  | .ok request =>
    let (result, after) := request.write environment wording files
    (Report.ofResult wording result, after)

end KernelLog.CommandLine
