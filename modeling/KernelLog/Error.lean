import KernelLog.Config.Error
import KernelLog.Channel
/-!
# Errors

What a call on a logger can fail with.
-/
namespace KernelLog

/-- Why a call failed. -/
inductive Error
  /-- The log devices could not be opened. -/
  | unavailable
  /-- A number that names no channel. -/
  | invalidChannel (code : UInt32)
  /-- A device or writer refused the record. -/
  | io (cause : IoError)
  | config (cause : ConfigError)
  deriving DecidableEq

namespace Error

/-- The text of an error. -/
def message (wording : DocumentWording) : Error → String
  | unavailable => "log channels unavailable"
  | invalidChannel code => "invalid log channel id " ++ toString code
  | io cause => "log write failed: " ++ cause.message
  | config cause => "config error: " ++ cause.message wording

end Error

/-- The channel that a number names. -/
def Channel.ofCode (code : UInt32) : Except Error Channel :=
  match Channel.ofCode? code with
  | some channel => .ok channel
  | none => .error (.invalidChannel code)

end KernelLog
