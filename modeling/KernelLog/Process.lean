import KernelLog.Threshold
import KernelLog.World
/-!
# Runs of a process

What a process does is a list of steps: it makes loggers, uses them, sends messages to the facade,
installs a bridge, and now and then files change behind its back. A failed assertion writes one last
record and ends the run: the step has no answer and no later step takes place.
-/
namespace KernelLog

/-- What the frames of a new logger are to be written to. -/
inductive Binding
  /-- The devices of its configuration, opened when they are first needed. -/
  | devices
  | nothing
  /-- A new memory. -/
  | memory
  /-- The memory of a given number. -/
  | sharedMemory (number : Nat)
  | custom (writer : CustomWriter)

/-- Which logger a step uses. -/
inductive LoggerRef
  /-- The one of the whole process. -/
  | shared
  /-- The one with a given number. -/
  | numbered (id : Nat)
  deriving DecidableEq, Repr

/-- What is done with a logger. -/
inductive Operation
  | send (call : Call)
  | isInitialized
  /-- Whether writes can succeed; the target is chosen for it. -/
  | isAvailable
  /-- Whether the main device can be written to; no target is chosen for it. -/
  | isMainWritable
  | isLoggable (priority : Priority) (tag : Option String)
  | config
  | describe
  /-- Writes a fatal record about a failed assertion and ends the process. -/
  | failAssertion (condition : Option String) (tag : String) (message : Option (List Piece))
  deriving DecidableEq

/-- A step of a process. -/
inductive Step
  | create (config : Config) (binding : Binding)
  | operate (on : LoggerRef) (operation : Operation)
  /-- Nothing, if the asserted condition holds; otherwise a failed assertion. -/
  | assert (holds : Bool) (condition tag : String) (message : Option (List Piece))
  /-- Puts something under a name in the file system, or removes it. -/
  | change (place : Location) (change : FileSystem.Change)
  | makeBridge (on : LoggerRef) (tagMode : TagMode) (channel : Option Channel)
      (filter : LevelFilter)
  /-- Hands a message to a bridge, past the facade. -/
  | bridgeMessage (bridge : Bridge) (message : Message)
  /-- Makes a bridge and installs it. -/
  | install (on : LoggerRef) (tagMode : TagMode) (channel : Option Channel) (filter : LevelFilter)
  /-- Hands a message to the facade. -/
  | log (message : Message)
  /-- Writes a frame to a memory, past all loggers. -/
  | deposit (memory : Nat) (frame : Frame)
  /-- Forgets the frames of a memory. -/
  | clear (memory : Nat)

/-- The answer to a step. -/
inductive Answer
  /-- The number of bytes written, or why nothing was. -/
  | sent (result : Except Error Nat)
  | flag (value : Bool)
  | config (config : Config)
  | text (text : String)
  /-- The number of a new logger, and whether its target is chosen. -/
  | created (id : Nat) (isInitialized : Bool)
  | bridge (bridge : Bridge)
  | installed (result : Except InstallError Unit)
  | done

/-- What a step leads to: an answer and the world after it, or the end of the process. -/
inductive Outcome
  | answered (answer : Answer) (world : World)
  | aborted (world : World)

namespace World

/-- Makes a logger. -/
def create (config : Config) (binding : Binding) (world : World) : Nat × World :=
  let fresh := world.count
  match binding with
  | .devices => world.addLogger (Logger.new config)
  | .nothing => world.addLogger (Logger.withTarget config .nothing)
  | .memory => world.addLogger (Logger.withTarget config (.memory fresh))
  | .sharedMemory number => world.addLogger (Logger.withTarget config (.memory number))
  | .custom writer =>
    let customs := world.host.customs.set fresh writer
    { world with host := { world.host with customs := customs } }.addLogger
      (Logger.withTarget config (.custom fresh))

/-- The number of the logger that a step uses; the one of the whole process is made if need be. -/
def refer (on : LoggerRef) (world : World) : Nat × World :=
  match on with
  | .shared => world.sharedLogger emit
  | .numbered id => (id, world)

/-- Does something with a logger. -/
def operate (id : Nat) (operation : Operation) (world : World) : Outcome :=
  match operation with
  | .send call =>
    let (result, after) := world.send emit id call.frame
    .answered (.sent result) after
  | .isInitialized => .answered (.flag (world.loggers id).isInitialized) world
  | .isAvailable =>
    let (value, after) := world.isAvailable emit id
    .answered (.flag value) after
  | .isMainWritable =>
    let (value, after) := world.isMainWritable id
    .answered (.flag value) after
  | .isLoggable priority tag =>
    .answered (.flag ((world.loggers id).config.isLoggable priority tag)) world
  | .config => .answered (.config (world.loggers id).config) world
  | .describe => .answered (.text (world.loggers id).describe) world
  | .failAssertion condition tag message =>
    .aborted
      (world.send emit id (Frame.ofLine none .fatal tag (Line.ofAssertion condition message))).2

/-- Makes a bridge to a logger. -/
def makeBridge (on : LoggerRef) (tagMode : TagMode) (channel : Option Channel)
    (filter : LevelFilter) (world : World) : Bridge × World :=
  let (id, after) := world.refer on
  ({ logger := id, tagMode := tagMode, channel := channel, filter := filter }, after)

/-- Installs a bridge as the backend of the facade, if there is none. -/
def install (bridge : Bridge) (world : World) : Except InstallError Unit × World :=
  match world.facade.install bridge with
  | .ok facade => (.ok (), { world with facade := facade })
  | .error cause => (.error cause, world)

/-- Takes one step. -/
def step (step : Step) (world : World) : Outcome :=
  match step with
  | .create config binding =>
    let (id, after) := world.create config binding
    .answered (.created id (after.loggers id).isInitialized) after
  | .operate on operation =>
    let (id, after) := world.refer on
    after.operate id operation
  | .assert holds condition tag message =>
    if holds then .answered .done world
    else
      let (id, after) := world.refer .shared
      after.operate id (.failAssertion (some condition) tag message)
  | .change place change =>
    .answered .done
      { world with host := { world.host with files := world.host.files.apply place change } }
  | .makeBridge on tagMode channel filter =>
    let (bridge, after) := world.makeBridge on tagMode channel filter
    .answered (.bridge bridge) after
  | .bridgeMessage bridge message => .answered .done (world.forward emit bridge message)
  | .install on tagMode channel filter =>
    let (bridge, made) := world.makeBridge on tagMode channel filter
    let (result, after) := made.install bridge
    .answered (.installed result) after
  | .log message => .answered .done (emit message world)
  | .deposit memory frame =>
    let written := world.host.write (.memory memory) frame
    .answered (.sent written.answer) { world with host := written.host }
  | .clear memory => .answered .done { world with host := world.host.clear memory }

/-- A run: the answers in order, the last world, and whether the process was ended by a failed
assertion. -/
structure Run where
  answers : List Answer
  world : World
  aborted : Bool

/-- Takes steps until the process ends. -/
def run : List Step → World → Run
  | [], world => { answers := [], world := world, aborted := false }
  | first :: rest, world =>
    match world.step first with
    | .aborted last => { answers := [], world := last, aborted := true }
    | .answered answer after =>
      let later := run rest after
      { later with answers := answer :: later.answers }

end World
end KernelLog
