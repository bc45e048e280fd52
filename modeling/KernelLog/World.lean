import KernelLog.Facade
import KernelLog.Logger
/-!
# The process and its surroundings

`World` is everything a call can depend on or change: the host, the loggers, the facade, the
environment, and the texts of the reader of documents. Calls are functions from one world to the
next.

A call that writes goes in two steps: it obtains the target of its logger, which may mean opening
the devices, and then writes its frame to the target. What the library reports while it opens the
devices is handed to the facade at that point, and may come back to a logger through a bridge;
`log` bounds how deep this can go. A call that needs the target of a logger whose devices are just
being opened waits for ever, and the world that it leaves is marked as stuck.
-/
namespace KernelLog

/-- A request to open a device file for writing. -/
inductive Opening
  /-- The device of a channel, for the logger of the given number to write to. -/
  | device (logger : Nat) (channel : Channel)
  /-- The main device, only to learn whether the logger of the given number could write to it. -/
  | probe (logger : Nat)
  deriving DecidableEq, Repr

/-- The state of a process and what surrounds it. Loggers are numbered in the order in which they
are made; `shared` is the number of the logger that the whole process uses, once it exists.
`wording` is what the reader of documents writes about the one document that the process is ever
configured by. `openings` holds all requests to open a device, the oldest first, whatever became of
them. -/
structure World where
  host : Host
  loggers : Numbered Logger
  count : Nat
  shared : Option Nat
  environment : Environment
  wording : DocumentWording
  facade : Facade
  stuck : Bool
  openings : List Opening

/-- How the facade takes a message in a world. -/
abbrev Emit := Message → World → World

namespace World

/-- The world at the start of a process. -/
def start (files : FileSystem) (environment : Environment) (wording : DocumentWording)
    (facade : Facade) : World where
  host :=
    { files := files
      memories := fun _ => []
      customs := fun _ =>
        { answer := fun _ frame => .ok frame.size, isAvailable := true, received := [] } }
  loggers := fun _ => Logger.new Config.default
  count := 0
  shared := none
  environment := environment
  wording := wording
  facade := facade
  stuck := false
  openings := []

/-- The world in which a number stands for another logger. -/
def setLogger (world : World) (id : Nat) (logger : Logger) : World :=
  { world with loggers := world.loggers.set id logger }

/-- Adds a logger and gives its number. -/
def addLogger (world : World) (logger : Logger) : Nat × World :=
  (world.count, { world.setLogger world.count logger with count := world.count + 1 })

/-! ## The two steps of a call -/

/-- Requests that the device of a channel of a logger be opened, in the file system as it is. -/
def openDevice (id : Nat) (channel : Channel) : StateM World (Except IoError Descriptor) :=
  fun world =>
    (world.host.files.openForWriting ((world.loggers id).config.devicePath channel),
      { world with openings := world.openings ++ [.device id channel] })

/-- Makes sure that a logger has its target. The devices are opened if they have not been, in the
file system of this moment; the reports on it are handed to the facade before the target is
chosen. -/
def obtain (emit : Emit) (id : Nat) (world : World) : World :=
  let logger := world.loggers id
  match logger.dispatch with
  | .unopened =>
    let opening := world.setLogger id (logger.withDispatch .opening)
    let (attempts, tried) := Attempts.gather (openDevice id) opening
    let reported :=
      (attempts.reports logger.config.deviceDir).foldl (fun world message => emit message world)
        tried
    reported.setLogger id
      ((reported.loggers id).withDispatch (.chosen (Logger.targetOf attempts)))
  | .opening => world
  | .chosen _ => world

/-- Writes a frame to the target of a logger. -/
def deliver (id : Nat) (frame : Frame) (world : World) : Except Error Nat × World :=
  let logger := world.loggers id
  match logger.dispatch with
  | .chosen target =>
    let written := world.host.write target frame
    (written.answer,
      { world.setLogger id (logger.withDispatch (.chosen written.target)) with
        host := written.host })
  | .unopened => (.error .unavailable, { world with stuck := true })
  | .opening => (.error .unavailable, { world with stuck := true })

/-- Writes a frame on a logger. -/
def send (emit : Emit) (id : Nat) (frame : Frame) (world : World) : Except Error Nat × World :=
  (world.obtain emit id).deliver id frame

/-- Whether a logger's writes can succeed. It gets its target if it has none. -/
def isAvailable (emit : Emit) (id : Nat) (world : World) : Bool × World :=
  let ready := world.obtain emit id
  match (ready.loggers id).dispatch with
  | .chosen target => (ready.host.isAvailable target, ready)
  | .unopened => (false, { ready with stuck := true })
  | .opening => (false, { ready with stuck := true })

/-- Whether the main device of a logger can be written to, as it was when first asked. -/
def isMainWritable (id : Nat) (world : World) : Bool × World :=
  let logger := world.loggers id
  match logger.mainWritable with
  | some answer => (answer, world)
  | none =>
    let answer := logger.isMainWritable world.host.files
    let told := world.setLogger id { logger with mainWritable := some answer }
    (answer, { told with openings := told.openings ++ [.probe id] })

/-! ## The facade -/

/-- Forwards a message over a bridge. What becomes of the write is told to nobody. -/
def forward (emit : Emit) (bridge : Bridge) (message : Message) (world : World) : World :=
  if bridge.enabled message.level message.target then
    (world.send emit bridge.logger (bridge.frame message)).2
  else world

/-- Hands a message to the facade. `depth` bounds how many messages may be under way within each
other; one beyond it marks the world as stuck. -/
def log : (depth : Nat) → Emit
  | 0, _, world => { world with stuck := true }
  | depth + 1, message, world =>
    if world.facade.maxLevel.admits message.level then
      match world.facade.backend with
      | .absent => world
      | .collector =>
        let collected := world.facade.collected ++ [message]
        { world with facade := { world.facade with collected := collected } }
      | .bridge bridge => world.forward (log depth) bridge message
    else world

/-- The number of messages that may be under way within each other: one that is forwarded, and a
report on opening the devices for it. -/
def nesting : Nat := 2

/-- Hands a message of the process or of the library to the facade. -/
def emit : Emit := log nesting

/-! ## The logger of the process -/

/-- The number of the logger that the whole process uses. It is made when it is first needed, with
the configuration that the environment gives at that moment; a configuration that is refused is
reported, and the defaults are used. No device is opened. -/
def sharedLogger (emit : Emit) (world : World) : Nat × World :=
  match world.shared with
  | some id => (id, world)
  | none =>
    let (id, made) :=
      match world.environment.config world.host.files.read with
      | .ok config => world.addLogger (Logger.new config)
      | .error cause =>
        let warned := emit (Message.configRefused world.wording cause) world
        warned.addLogger (Logger.new Config.default)
    (id, { made with shared := some id })

end World
end KernelLog
