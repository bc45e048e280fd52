/-!
# Priorities

The priority of a text record is its first byte. The nine priorities are ordered by that byte, from
the least to the most severe. Property values name six of them by a capital letter, the command line
seven by a letter of either case.
-/
namespace KernelLog

/-- How severe a record is, from the least to the most. -/
inductive Priority
  | unknown
  | default
  | verbose
  | debug
  | info
  | warn
  | error
  | fatal
  | silent
  deriving DecidableEq, Repr

namespace Priority

/-- All priorities, from the least to the most severe. -/
def all : List Priority :=
  [.unknown, .default, .verbose, .debug, .info, .warn, .error, .fatal, .silent]

/-- The byte a record carries for a priority. -/
def toByte : Priority → UInt8
  | unknown => 0
  | default => 1
  | verbose => 2
  | debug => 3
  | info => 4
  | warn => 5
  | error => 6
  | fatal => 7
  | silent => 8

/-- The priority a record's first byte stands for; bytes above 8 stand for none. -/
def ofByte? (byte : UInt8) : Option Priority :=
  all.find? (·.toByte == byte)

/-- Priorities are compared by the byte they are transmitted as. -/
instance : Ord Priority := ⟨fun a b => compare a.toByte b.toByte⟩

/-- One priority is at most another when its byte is. -/
instance : LE Priority := ⟨fun a b => a.toByte ≤ b.toByte⟩

/-- Which of two is at most the other can be decided. -/
instance (a b : Priority) : Decidable (a ≤ b) :=
  inferInstanceAs (Decidable (a.toByte ≤ b.toByte))

/-- The priority named by the first byte of a `log.tag.` property: one of `E W I D V S`, capitals
only. There is no letter for a fatal threshold. -/
def ofPropertyByte? (byte : UInt8) : Option Priority :=
  if byte == 0x45 then some error
  else if byte == 0x57 then some warn
  else if byte == 0x49 then some info
  else if byte == 0x44 then some debug
  else if byte == 0x56 then some verbose
  else if byte == 0x53 then some silent
  else none

/-- The priority named by a letter on the command line, in either ASCII case. -/
def ofLetter? (letter : Char) : Option Priority :=
  match letter.toLower with
  | 'v' => some verbose
  | 'd' => some debug
  | 'i' => some info
  | 'w' => some warn
  | 'e' => some error
  | 'f' => some fatal
  | 's' => some silent
  | _ => none

/-- The capital letter a priority is displayed as. The default priority shows as `D`, like debug. -/
def letter : Priority → Char
  | unknown => '?'
  | default => 'D'
  | verbose => 'V'
  | debug => 'D'
  | info => 'I'
  | warn => 'W'
  | error => 'E'
  | fatal => 'F'
  | silent => 'S'

/-- The name of a priority. -/
def name : Priority → String
  | unknown => "Unknown"
  | default => "Default"
  | verbose => "Verbose"
  | debug => "Debug"
  | info => "Info"
  | warn => "Warn"
  | error => "Error"
  | fatal => "Fatal"
  | silent => "Silent"

end Priority
end KernelLog
