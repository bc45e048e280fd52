import KernelLog.Priority
/-!
# Levels of the process's own logging

Records that reach the library from the rest of the process carry one of five levels. A filter is
the most verbose level let through, or none at all.
-/
namespace KernelLog

/-- The level of a record of the process, from the most severe to the most verbose. -/
inductive Level
  | error
  | warn
  | info
  | debug
  | trace
  deriving DecidableEq, Repr

namespace Level

/-- All levels, from the most severe to the most verbose. -/
def all : List Level := [.error, .warn, .info, .debug, .trace]

/-- How verbose a level is; the most severe counts 1, so that nothing counts as 0. -/
def verbosity : Level → Nat
  | error => 1
  | warn => 2
  | info => 3
  | debug => 4
  | trace => 5

/-- The capital name of a level. -/
def name : Level → String
  | error => "ERROR"
  | warn => "WARN"
  | info => "INFO"
  | debug => "DEBUG"
  | trace => "TRACE"

/-- The level with a given name, in any ASCII case. -/
def ofName? (text : String) : Option Level :=
  all.find? (·.name == text.toUpper)

end Level

/-- The priority a level is recorded at: each keeps its own name, and trace becomes verbose. -/
def Priority.ofLevel : Level → Priority
  | .error => .error
  | .warn => .warn
  | .info => .info
  | .debug => .debug
  | .trace => .verbose

/-- Which levels are let through. -/
inductive LevelFilter
  | off
  | upTo (most : Level)
  deriving DecidableEq, Repr

namespace LevelFilter

/-- How much a filter lets through, on the scale of `Level.verbosity`. -/
def verbosity : LevelFilter → Nat
  | off => 0
  | upTo most => most.verbosity

/-- Whether a filter lets a level through. -/
def admits (filter : LevelFilter) (level : Level) : Bool :=
  level.verbosity ≤ filter.verbosity

/-- The capital name of a filter. -/
def name : LevelFilter → String
  | off => "OFF"
  | upTo most => most.name

/-- The filter with a given name, in any ASCII case. -/
def ofName? (text : String) : Option LevelFilter :=
  if text.toUpper == "OFF" then some off else (Level.ofName? text).map upTo

end LevelFilter
end KernelLog
