import KernelLog.Channel
import KernelLog.Config.Error
import KernelLog.FileSystem
import KernelLog.Priority
import KernelLog.Toml.Document
/-!
# Configuration

A logger is configured by the directory of the log devices, a fallback priority, and properties
that set thresholds for tags. The process takes its configuration from three sources, of which a
later one wins: the defaults, a file named by the environment, and a device directory named by the
environment. A file is checked as a whole before anything overrides it, so what is wrong with it is
an error, even where another source would win.
-/
namespace KernelLog

/-- Names and their values. The first entry of a name counts. -/
abbrev Properties := List (String × String)

/-- A configuration. The device directory is a path; the fallback priority is a letter. -/
structure Config where
  deviceDir : Bytes := Bytes.ofText "/dev/log"
  fallbackPriority : Char := 'I'
  properties : Properties := []
  deriving DecidableEq

/-- The two variables of the environment that matter: the path of a configuration file and the
device directory. -/
structure Environment where
  configFile : Option Bytes
  deviceDir : Option Bytes
  deriving DecidableEq

namespace Config

/-- The configuration of a process that says nothing. -/
def default : Config := {}

/-- Whether a configuration says what the default one says. Directories are compared by their
significant names. -/
def isDefault (config : Config) : Bool :=
  FileSystem.significant config.deviceDir == FileSystem.significant default.deviceDir &&
    config.fallbackPriority == default.fallbackPriority && config.properties.isEmpty

/-- The path of a channel's device file. -/
def devicePath (config : Config) (channel : Channel) : Bytes :=
  FileSystem.join config.deviceDir (Bytes.ofText channel.deviceName)

/-- The priority that a fallback letter names. Characters that are no single byte name none, even
if their code point ends in the byte of a letter. -/
def fallbackOfLetter? (letter : Char) : Option Priority :=
  if letter.toNat < 256 then Priority.ofPropertyByte? (UInt8.ofNat letter.toNat) else none

/-- The threshold of tags for which no property sets one: info unless the letter names another. -/
def fallback (config : Config) : Priority :=
  (fallbackOfLetter? config.fallbackPriority).getD .info

/-- Accepts a configuration if its letter names a priority and its directory is not empty. The
letter is checked first. -/
def validate (config : Config) : Except ConfigError Config :=
  if (fallbackOfLetter? config.fallbackPriority).isNone then
    .error (.fallbackPriority config.fallbackPriority)
  else if config.deviceDir = [] then .error .emptyDeviceDir
  else .ok config

/-! ## From a document -/

/-- The text of a value that has to be a string. -/
def textOf (expected : Expected) : Toml.Value → Except DocumentError String
  | .string text => .ok text
  | other => .error (.wrongType (Found.ofValue other) expected)

/-- The character of a value that has to be a string of one. -/
def characterOf (value : Toml.Value) : Except DocumentError Char := do
  let text ← textOf .character value
  match text.toList with
  | [letter] => .ok letter
  | _ => .error (.notOneCharacter text)

/-- The name of the only entry of a date that is presented as a table. -/
def datetimeEntry : String := "$__toml_private_datetime"

/-- The properties of a value that has to be a table of strings. -/
def propertiesOf : Toml.Value → Except DocumentError Properties
  | .table entries => entries.mapM fun (name, value) => do
    let text ← textOf .string value
    pure (name, text)
  | .datetime text => .ok [(datetimeEntry, text)]
  | other => .error (.wrongType (Found.ofValue other) .map)

/-- Takes in one entry of a document. -/
def withEntry (config : Config) (name : String) (value : Toml.Value) :
    Except DocumentError Config :=
  if name = "device_dir" then do
    let path ← textOf .path value
    pure { config with deviceDir := Bytes.ofText path }
  else if name = "fallback_priority" then do
    let letter ← characterOf value
    pure { config with fallbackPriority := letter }
  else if name = "properties" then do
    let properties ← propertiesOf value
    pure { config with properties := properties }
  else .error (.unknownField name)

/-- The configuration that a document describes, before it is validated. Entries are taken in their
order, so the first that does not fit is the error. -/
def decode (document : Toml.Document) : Except DocumentError Config :=
  document.foldlM (fun config (name, value) => config.withEntry name value) default

/-- The configuration that a document describes. -/
def ofDocument (document : Toml.Document) : Except ConfigError Config := do
  let config ← (decode document).mapError .document
  config.validate

/-- The configuration that the text of a file describes. -/
def ofText (text : String) : Except ConfigError Config :=
  match Toml.Document.parse? text with
  | some document => ofDocument document
  | none => .error (.document .malformed)

/-- The configuration in a file, which is read by a given reader. -/
def ofFile (read : Bytes → Except IoError Bytes) (path : Bytes) : Except ConfigError Config := do
  let content ← (read path).mapError (.unreadable path)
  match Text.Utf8.decode? content with
  | some text => ofText text
  | none => .error (.unreadable path .invalidText)

end Config

namespace Environment

/-- A variable that is set to something. -/
def given (setting : Option Bytes) : Option Bytes :=
  setting.filter (!·.isEmpty)

/-- The configuration of a process with this environment, whose configuration file is read by a
given reader. The override is applied to a file that is valid by itself, and the result is
validated again. -/
def config (environment : Environment) (read : Bytes → Except IoError Bytes) :
    Except ConfigError Config := do
  let base ←
    match given environment.configFile with
    | some path => Config.ofFile read path
    | none => .ok Config.default
  match given environment.deviceDir with
  | some directory => Config.validate { base with deviceDir := directory }
  | none => base.validate

end Environment
end KernelLog
