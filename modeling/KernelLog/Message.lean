import KernelLog.Devices
import KernelLog.Error
import KernelLog.Level
import KernelLog.Line
/-!
# Messages of the process

The parts of a process log through one facade: each message has a level, a target that names the
part it comes from, and a text that is formatted when it is needed. The library itself reports
through the facade, too, under targets of its own.
-/
namespace KernelLog

/-- A message of a part of the process. -/
structure Message where
  level : Level
  target : String
  pieces : List Piece
  deriving DecidableEq, Repr

namespace Message

/-- The text of a message, up to where its formatting fails. -/
def text (message : Message) : String :=
  written message.pieces
where
  /-- The text of the pieces up to the first failure. -/
  written : List Piece → String
    | [] => ""
    | .failure :: _ => ""
    | .text first :: rest => first ++ written rest

/-- The parts of a target, separated by double colons, up to the first: its root. -/
def rootOf : List Char → List Char
  | [] => []
  | ':' :: ':' :: _ => []
  | c :: rest => c :: rootOf rest

/-- The root of a target: all of it if there is no double colon. -/
def root (target : String) : String :=
  String.ofList (rootOf target.toList)

/-- The target under which the library reports. -/
def internalTarget : String := "liblog"

/-- Whether a target is the library's own: its name, or a part below it. -/
def isInternal (target : String) : Bool :=
  target == internalTarget || (internalTarget ++ "::").toList.isPrefixOf target.toList

/-- A report of the library on one of its parts. -/
def report (level : Level) (part text : String) : Message where
  level := level
  target := internalTarget ++ "::" ++ part
  pieces := [.text text]

/-- What is reported when the configuration of the process is refused: why, and that the defaults
are used. -/
def configRefused (wording : DocumentWording) (cause : ConfigError) : Message :=
  report .warn "config" ((Error.config cause).message wording ++ "; using defaults")

end Message

/-- What is reported on opening the devices: on success where they are, and before that whether the
system channel shares main's; on failure each channel that had to open and did not. -/
def Attempts.reports {δ : Type} (attempts : Attempts δ) (directory : Bytes) : List Message :=
  match attempts.devices? with
  | some _ =>
    let sharing := (failure? attempts.system).map fun cause =>
      Message.report .debug "init"
        ("system channel unavailable (" ++ cause.message ++ "); sharing main")
    sharing.toList ++
      [Message.report .debug "init"
        ("log channels open in " ++ Text.Utf8.decodeLossy directory)]
  | none =>
    attempts.failures.map fun (channel, cause) =>
      Message.report .warn "init"
        ("cannot open " ++ channel.deviceName ++ " channel: " ++ cause.message)

end KernelLog
