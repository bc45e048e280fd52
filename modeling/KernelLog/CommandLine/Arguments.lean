import KernelLog.Channel
import KernelLog.Priority
import KernelLog.Text.Plain
import KernelLog.Text.Utf8
/-!
# Arguments of the command line

The arguments are read from the left. Options take a value, attached to them or as the next
argument; all other arguments are words of the message. An option whose value is the next argument
and a group of words are settled only when the next option, flag or group begins, or at the end;
only then are mistakes in them found. An argument that looks like an option but is none is a mistake
at once, and hides those not found yet.
-/
namespace KernelLog.CommandLine

/-- An option that takes a value. -/
inductive Setting
  | priority
  | tag
  | channel
  | deviceDir
  deriving DecidableEq, Repr

/-- How an option is shown in a message about it. -/
def Setting.usage : Setting → String
  | priority => "-p <PRIORITY>"
  | tag => "-t <TAG>"
  | channel => "-b <CHANNEL>"
  | deviceDir => "--device-dir <DEVICE_DIR>"

/-- A flag, which acts as soon as it is reached. -/
inductive Flag
  | help
  | version
  deriving DecidableEq, Repr

/-- How a flag is shown in a message about it. -/
def Flag.usage : Flag → String
  | help => "--help"
  | version => "--version"

/-- Why a value of an option is refused. -/
inductive BadValue
  | unknownPriority
  | notOneLetter
  | unknownChannel
  deriving DecidableEq, Repr

/-- The reason for which a value is refused. -/
def BadValue.reason (value : String) : BadValue → String
  | unknownPriority => "unknown priority '" ++ value ++ "'"
  | notOneLetter => "priority must be a single letter, got '" ++ value ++ "'"
  | unknownChannel => "unknown channel '" ++ value ++ "'"

/-- A mistake in the arguments. -/
inductive UsageError
  | badValue (setting : Setting) (value : String) (why : BadValue)
  /-- An argument that looks like an option or a flag and is none. -/
  | unknownArgument (shown : String)
  | missingValue (setting : Setting)
  | repeated (setting : Setting)
  /-- There is no word of a message. -/
  | noMessage
  | flagWithValue (flag : Flag) (value : String)
  /-- An argument that has to be text is none. -/
  | invalidText
  deriving DecidableEq, Repr

/-- What follows the description of a mistake, up to the argument that helps. -/
def hint : String := "\n\nFor more information, try '"

/-- The message about a mistake, in parts of two weights by turns: what it says in the lighter one,
what it quotes in the heavier one. The reason for which a value is refused counts as said. -/
def UsageError.parts : UsageError → List String
  | badValue setting value why =>
    ["error:", " invalid value '", value, "' for '", setting.usage,
      "': " ++ why.reason value ++ hint, "--help", "'.\n"]
  | unknownArgument shown =>
    ["error:", " unexpected argument '", shown, "' found" ++ hint, "--help", "'.\n"]
  | missingValue setting =>
    ["error:", " a value is required for '", setting.usage, "' but none was supplied" ++ hint,
      "--help", "'.\n"]
  | repeated setting =>
    ["error:", " the argument '", setting.usage, "' cannot be used multiple times" ++ hint,
      "--help", "'.\n"]
  | noMessage =>
    ["error:", " the following required arguments were not provided:\n  ", "<MESSAGE>...", hint,
      "--help", "'.\n"]
  | flagWithValue flag value =>
    ["error:", " unexpected value '", value, "' for '", flag.usage,
      "' found; no more were expected" ++ hint, "--help", "'.\n"]
  | invalidText =>
    ["error:", " invalid UTF-8 was detected in one or more arguments" ++ hint, "--help", "'.\n"]

/-- The message about a mistake, as it is shown where no terminal is. -/
def UsageError.message (error : UsageError) : String :=
  Text.plainParts error.parts

/-- Why reading the arguments ends early. -/
inductive Stop
  | usage (error : UsageError)
  | flag (flag : Flag)
  deriving DecidableEq, Repr

/-- What the arguments ask for: one record, with the words of its message. -/
structure Request where
  priority : Priority
  tag : String
  channel : Option Channel
  deviceDir : Option Bytes
  words : List String
  deriving DecidableEq, Repr

/-- What has been settled so far. -/
structure Settled where
  priority : Option Priority
  tag : Option String
  channel : Option Channel
  deviceDir : Option Bytes
  words : List String
  deriving DecidableEq, Repr

/-- What has been read and not been settled. -/
inductive Pending
  | nothing
  /-- An option and, once it has come, its value. -/
  | setting (setting : Setting) (value : Option Bytes)
  | words (words : List Bytes)
  deriving DecidableEq, Repr

/-- The state of reading: after a lone `--` all arguments are words. -/
structure Reader where
  settled : Settled
  pending : Pending
  onlyWords : Bool
  deriving DecidableEq, Repr

/-- The text of an argument that has to be text. -/
def textOf (argument : Bytes) : Except UsageError String :=
  match Text.Utf8.decode? argument with
  | some text => .ok text
  | none => .error .invalidText

/-- The priority that a value names: a single letter, but not the one that silences a tag. -/
def priorityOf (text : String) : Except UsageError Priority :=
  match text.toList with
  | [letter] =>
    match Priority.ofLetter? letter with
    | none => .error (.badValue .priority text .unknownPriority)
    | some .silent => .error (.badValue .priority text .unknownPriority)
    | some priority => .ok priority
  | _ => .error (.badValue .priority text .notOneLetter)

/-- The channel that a value names. -/
def channelOf (text : String) : Except UsageError Channel :=
  match Channel.ofDeviceName? text with
  | some channel => .ok channel
  | none => .error (.badValue .channel text .unknownChannel)

namespace Settled

/-- Nothing is settled. -/
def empty : Settled where
  priority := none
  tag := none
  channel := none
  deviceDir := none
  words := []

/-- Whether an option has been settled. -/
def has (settled : Settled) : Setting → Bool
  | .priority => settled.priority.isSome
  | .tag => settled.tag.isSome
  | .channel => settled.channel.isSome
  | .deviceDir => settled.deviceDir.isSome

/-- Settles the value of an option. A directory may be any bytes, but not none. -/
def withValue (settled : Settled) (value : Bytes) : Setting → Except UsageError Settled
  | .priority => do
    let priority ← priorityOf (← textOf value)
    pure { settled with priority := some priority }
  | .tag => do
    let tag ← textOf value
    pure { settled with tag := some tag }
  | .channel => do
    let channel ← channelOf (← textOf value)
    pure { settled with channel := some channel }
  | .deviceDir =>
    if value = [] then .error (.missingValue .deviceDir)
    else .ok { settled with deviceDir := some value }

/-- Settles an option: it needs a value, may come once, and its value has to be allowed. -/
def withSetting (settled : Settled) (setting : Setting) :
    (value : Option Bytes) → Except UsageError Settled
  | none => .error (.missingValue setting)
  | some value =>
    if settled.has setting then .error (.repeated setting) else settled.withValue value setting

/-- Settles what is pending. -/
def withPending (settled : Settled) : Pending → Except UsageError Settled
  | .nothing => .ok settled
  | .setting setting value => settled.withSetting setting value
  | .words words => do
    let words ← words.mapM textOf
    pure { settled with words := settled.words ++ words }

/-- What the arguments ask for, with the defaults filled in. -/
def request (settled : Settled) : Except UsageError Request :=
  if settled.words = [] then .error .noMessage
  else
    .ok {
      priority := settled.priority.getD .info
      tag := settled.tag.getD "log"
      channel := settled.channel
      deviceDir := settled.deviceDir
      words := settled.words }

end Settled

/-- The option with a short name. -/
def Setting.ofLetter? (letter : UInt8) : Option Setting :=
  if letter == 0x70 then some .priority
  else if letter == 0x74 then some .tag
  else if letter == 0x62 then some .channel
  else none

/-- The flag with a short name. -/
def Flag.ofLetter? (letter : UInt8) : Option Flag :=
  if letter == 0x68 then some .help else if letter == 0x56 then some .version else none

/-- The flag with a long name. -/
def Flag.ofName? (name : Bytes) : Option Flag :=
  if name = Bytes.ofText "help" then some .help
  else if name = Bytes.ofText "version" then some .version
  else none

/-- The long name of an option; only the directory has one. -/
def deviceDirName : Bytes := Bytes.ofText "device-dir"

/-- The sign between the name of an option and an attached value. -/
def equalsSign : UInt8 := 0x3D

/-- The sign that options begin with. -/
def hyphen : UInt8 := 0x2D

namespace Reader

/-- The state before the first argument. -/
def start : Reader where
  settled := .empty
  pending := .nothing
  onlyWords := false

/-- Settles what is pending. -/
def settle (reader : Reader) : Except Stop Reader := do
  let settled ← (reader.settled.withPending reader.pending).mapError .usage
  pure { reader with settled := settled, pending := .nothing }

/-- Takes an option with the value attached to it, if there is one. An attached value is settled at
once; without one the option waits for the next argument. -/
def setting (reader : Reader) (setting : Setting) (value : Option Bytes) : Except Stop Reader := do
  let reader ← reader.settle
  let withOption : Reader := { reader with pending := .setting setting value }
  match value with
  | some _ => withOption.settle
  | none => pure withOption

/-- Takes a flag, which ends the reading unless a mistake is pending. -/
def flag (reader : Reader) (flag : Flag) : Except Stop Reader := do
  let _ ← reader.settle
  .error (.flag flag)

/-- Takes a word of the message. -/
def word (reader : Reader) (argument : Bytes) : Except Stop Reader :=
  match reader.pending with
  | .words words => .ok { reader with pending := .words (words ++ [argument]) }
  | _ => do
    let reader ← reader.settle
    pure { reader with pending := .words [argument] }

/-- Takes an argument that begins with two hyphens, of which they are gone. -/
def long (reader : Reader) (argument : Bytes) : Except Stop Reader :=
  let name := argument.takeWhile (· != equalsSign)
  let value := (argument.dropWhile (· != equalsSign)).tail?
  if name = deviceDirName then reader.setting .deviceDir value
  else
    match Flag.ofName? name, value with
    | some flag, none => reader.flag flag
    | some flag, some value =>
      .error (.usage (.flagWithValue flag (Text.Utf8.decodeLossy value)))
    | none, _ => .error (.usage (.unknownArgument ("--" ++ Text.Utf8.decodeLossy name)))

/-- What is shown of short options that are unknown: the first character, or all of them if they
begin with none. -/
def shownShort (letters : Bytes) : String :=
  match Text.Utf8.readings letters with
  | .char c :: _ => String.ofList ['-', c]
  | _ => "-" ++ Text.Utf8.decodeLossy letters

/-- The value attached to a short option: what follows it, without an equals sign in front. -/
def attached : Bytes → Option Bytes
  | [] => none
  | byte :: rest => some (if byte == equalsSign then rest else byte :: rest)

/-- Takes an argument that begins with one hyphen, of which it is gone, and is not empty. -/
def short (reader : Reader) : Bytes → Except Stop Reader
  | [] => .ok reader
  | letter :: rest =>
    match Setting.ofLetter? letter, Flag.ofLetter? letter with
    | some setting, _ => reader.setting setting (attached rest)
    | none, some flag => reader.flag flag
    | none, none => .error (.usage (.unknownArgument (shownShort (letter :: rest))))

/-- Takes the next argument. -/
def take (reader : Reader) (argument : Bytes) : Except Stop Reader :=
  if reader.onlyWords then reader.word argument
  else
    match argument with
    | [a, b] =>
      if a == hyphen && b == hyphen then .ok { reader with onlyWords := true }
      else plain argument
    | _ => plain argument
where
  /-- Takes an argument other than a lone pair of hyphens. -/
  plain (argument : Bytes) : Except Stop Reader :=
    match argument with
    | a :: b :: rest =>
      if a == hyphen && b == hyphen then reader.long rest
      else if a == hyphen then reader.short (b :: rest)
      else other argument
    | _ => other argument
  /-- Takes an argument that is neither an option nor a flag: the value of the option that waits
  for one, or a word. -/
  other (argument : Bytes) : Except Stop Reader :=
    match reader.pending with
    | .setting setting none => .ok { reader with pending := .setting setting (some argument) }
    | _ => reader.word argument

end Reader

/-- What the arguments ask for. -/
def Request.ofArguments (arguments : List Bytes) : Except Stop Request := do
  let reader ← arguments.foldlM Reader.take Reader.start
  let settled ← reader.settle
  settled.settled.request.mapError .usage

end KernelLog.CommandLine
