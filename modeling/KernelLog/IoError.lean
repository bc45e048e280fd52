/-!
# Failures of the system

What may go wrong when a path is resolved, a file opened or read, or bytes are written. The texts
are the system's own, followed by its error number where it has one.
-/
namespace KernelLog

/-- Why an operation on a file failed. -/
inductive IoError
  /-- A component of the path does not exist. -/
  | noSuchEntry
  /-- A component of the path that has to be a directory is none. -/
  | notADirectory
  /-- A directory was to be read or written as a file. -/
  | isADirectory
  /-- The device takes no more bytes. -/
  | noSpace
  /-- The path or one of its components is longer than a name may be. -/
  | nameTooLong
  /-- The path leads through more symbolic links than are followed. -/
  | tooManyLinks
  /-- The path holds a NUL and so cannot be handed to the system. -/
  | nulInPath
  /-- The file was read but is no UTF-8 text. -/
  | invalidText
  /-- There is not memory enough for the contents. -/
  | outOfMemory
  /-- The operation was broken off. -/
  | interrupted
  /-- The operation is not allowed. -/
  | permissionDenied
  /-- Nobody reads what is written. -/
  | brokenPipe
  /-- Any other failure that the system reports, by its number and text. -/
  | other (number : Nat) (text : String)
  deriving DecidableEq, Repr

namespace IoError

/-- A text of the system with its error number. -/
def numbered (text : String) (number : Nat) : String :=
  text ++ " (os error " ++ toString number ++ ")"

/-- The text of a failure. -/
def message : IoError → String
  | noSuchEntry => numbered "No such file or directory" 2
  | notADirectory => numbered "Not a directory" 20
  | isADirectory => numbered "Is a directory" 21
  | noSpace => numbered "No space left on device" 28
  | nameTooLong => numbered "File name too long" 36
  | tooManyLinks => numbered "Too many levels of symbolic links" 40
  | nulInPath => "file name contained an unexpected NUL byte"
  | invalidText => "stream did not contain valid UTF-8"
  | outOfMemory => "out of memory"
  | interrupted => "operation interrupted"
  | permissionDenied => "permission denied"
  | brokenPipe => "broken pipe"
  | other number text => numbered text number

end IoError
end KernelLog
