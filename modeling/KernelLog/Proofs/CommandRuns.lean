import KernelLog.CommandLine.Run
import KernelLog.Proofs.FailedWrites
import KernelLog.Proofs.LayeredConfigurations
import KernelLog.Proofs.NamedChannels

/-!
# Runs of the command

The command is one call on a logger that nobody else has. As that logger is new, what becomes of
its record depends on the configuration and the files alone (`World.send_new_alike`): either the
record is refused and nothing changes, or it is written once, at the start of one device
(`World.send_new_cases`). What is left to say is where the configuration comes from
(`CommandLine.DeviceDirectory`) and which record the arguments ask for
(`CommandLine.Request.Recorded`).
-/

namespace KernelLog

open Bytes Routing World

/-! ## Words -/

/-- The bytes of words with a space between each two are those of the words, with one between. -/
theorem ofText_intercalate (words : List String) :
    ofText (" ".intercalate words) = [32].intercalate (words.map ofText) := by
  simp only [ofText, String.toList_intercalate]
  induction words with
  | nil => rfl
  | cons word rest inductionHypothesis =>
    cases rest with
    | nil => simp [List.intercalate, ofText]
    | cons next others =>
      rw [List.map_cons, List.map_cons, List.map_cons, List.map_cons, List.intercalate_cons_cons,
        List.intercalate_cons_cons, List.flatMap_append, List.flatMap_append]
      rw [List.map_cons, List.map_cons] at inductionHypothesis
      rw [inductionHypothesis]
      rfl

/-- There is no NUL in them if there is none in the words. -/
theorem free_intercalate (fields : List Bytes)
    (free : ∀ field ∈ fields, (0 : UInt8) ∉ field) : 0 ∉ [32].intercalate fields := by
  induction fields with
  | nil => simp [List.intercalate]
  | cons field rest inductionHypothesis =>
    rw [List.forall_mem_cons] at free
    cases rest with
    | nil => simpa [List.intercalate] using free.1
    | cons next others =>
      have later := inductionHypothesis free.2
      rw [List.intercalate_cons_cons, List.mem_append, List.mem_append, not_or, not_or]
      exact ⟨⟨free.1, by decide⟩, later⟩

/-! ## One write on what was just opened -/

/-- What is left of bytes that are written where something was just opened: a regular file begins
with them, and goes on as it did; the device that swallows them leaves everything as it was. -/
inductive WrittenAtStart (bytes : Bytes) (files : FileSystem) : Sink → FileSystem → Prop
  | file (number : Nat) :
      WrittenAtStart bytes files (.file number)
        (files.setContent number (bytes ++ (files.content number).drop bytes.length))
  | swallowed : WrittenAtStart bytes files (.device .null) files

/-- The channel whose device takes the records of a channel: its own, but main for system if the
device of that does not open. -/
def Config.carrier (config : Config) (files : FileSystem) : Channel → Channel
  | .main => .main
  | .radio => .radio
  | .events => .events
  | .system => if config.opens files .system then .system else .main

/-- A text record is written once, to the device of a channel and nowhere else, and a reader learns
of it what it should. -/
def Config.Records (config : Config) (files : FileSystem) (channel : Channel)
    (reading : TextRecord.Reading) (after : FileSystem) : Prop :=
  ∃ descriptor, files.openForWriting (config.devicePath (config.carrier files channel)) =
      .ok descriptor ∧
    WrittenAtStart reading.bytes files descriptor.sink after ∧
    ∀ rest, TextRecord.read? (reading.bytes ++ rest) = some (reading, rest)

/-- What is written where something was just opened is written at the start. -/
theorem FileSystem.write_opened (files after : FileSystem) (path bytes : Bytes)
    (descriptor moved : Descriptor) (found : files.openForWriting path = .ok descriptor)
    (written : files.write descriptor bytes = .ok (moved, after)) :
    WrittenAtStart bytes files descriptor.sink after := by
  have atStart : descriptor.offset = 0 :=
    congrArg Descriptor.offset (files.openForWriting_rewound path descriptor found).symm
  obtain ⟨sink, offset⟩ := descriptor
  cases sink with
  | file number =>
    obtain ⟨_, rfl⟩ := Prod.mk.inj (Except.ok.inj written)
    have stored : overwrite (files.content number) offset bytes =
        bytes ++ (files.content number).drop bytes.length := by
      rw [show offset = 0 from atStart]
      simp [overwrite]
    simp only [stored]
    exact .file number
  | device device =>
    cases device with
    | null =>
      obtain ⟨_, rfl⟩ := Prod.mk.inj (Except.ok.inj written)
      exact .swallowed
    | full => cases written

/-- If the devices that have to open do so, each channel has the one of its carrier. -/
theorem Config.devices_opened (config : Config) (files : FileSystem)
    (core : config.opensCore files = true) :
    ∃ devices, Logger.targetOf ((Logger.new config).tryOpen files) = .devices devices ∧
      ∀ channel, files.openForWriting (config.devicePath (config.carrier files channel)) =
        .ok (devices.get channel) := by
  obtain ⟨main, radio, events, openMain, openRadio, openEvents, same⟩ :=
    Logger.targetOf_core config files core
  refine ⟨_, same, fun channel => ?_⟩
  cases channel with
  | main => exact openMain
  | radio => exact openRadio
  | events => exact openEvents
  | system =>
    cases openSystem : files.openForWriting (config.devicePath .system) with
    | ok system =>
      have opens : config.opens files .system = true :=
        (config.opens_iff files _).mpr ⟨_, openSystem⟩
      simp only [carrier, opens, ↓reduceIte, openSystem]
      rfl
    | error cause =>
      have closed : config.opens files .system = false := by
        simp [opens, openSystem, Except.toBool]
      simp only [carrier, closed, Bool.false_eq_true, ↓reduceIte, openMain]
      rfl

/-- What becomes of a frame that is written to devices, or nowhere, does not depend on anything but
the files. -/
theorem Host.write_alike (host other : Host) (target : Target) (frame : Frame)
    (kernel : target.IsKernel) (same : other.files = host.files) :
    (other.write target frame).answer = (host.write target frame).answer ∧
      (other.write target frame).host.files = (host.write target frame).host.files := by
  cases target with
  | devices devices =>
    simp only [write, same]
    split
    · exact ⟨rfl, rfl⟩
    · exact ⟨rfl, same⟩
  | nothing => exact ⟨rfl, same⟩
  | memory number => exact kernel.elim
  | custom number => exact kernel.elim

namespace World

section Fresh

variable (id : Nat) (world : World) (config : Config) (frame : Frame)
  (fresh : world.loggers id = Logger.new config)
include fresh

/-- A frame that is sent on a new logger is written to the target that its devices lead to. -/
theorem send_new :
    let target := Logger.targetOf ((Logger.new config).tryOpen world.host.files)
    let written := world.host.write target frame
    (world.send emit id frame).1 = written.answer ∧
      (world.send emit id frame).2.host = written.host := by
  intro target written
  obtain ⟨_, opened⟩ := obtain_new id world config fresh
  have sameHost : (world.obtain emit id).host = world.host := by
    rw [opened]
    rfl
  have bound : ((world.obtain emit id).loggers id).dispatch = .chosen target := by
    rw [opened]
    exact congrArg Logger.dispatch (boundTo_logger world id target world.host)
  rw [send_ready world id target emit frame bound, send_of_chosen _ id target emit frame bound,
    sameHost]
  exact ⟨rfl, rfl⟩

/-- It is refused and leaves the files as they were, or it is written once, to the device of its
channel. -/
theorem send_new_cases :
    let sent := world.send emit id frame
    (∃ cause, sent.1 = .error cause ∧ sent.2.host.files = world.host.files) ∨
      ∃ descriptor, sent.1 = .ok frame.size ∧
        world.host.files.openForWriting
          (config.devicePath (config.carrier world.host.files frame.channel)) = .ok descriptor ∧
        WrittenAtStart frame.bytes world.host.files descriptor.sink sent.2.host.files := by
  intro sent
  obtain ⟨answer, host⟩ := send_new id world config frame fresh
  rw [answer, host]
  cases core : config.opensCore world.host.files with
  | false =>
    rw [Logger.targetOf_not_core config _ core]
    exact .inl ⟨.unavailable, rfl, rfl⟩
  | true =>
    obtain ⟨devices, same, opened⟩ := config.devices_opened _ core
    rw [same]
    simp only [Host.write]
    cases written : world.host.files.write (devices.get frame.channel) frame.bytes with
    | error cause => exact .inl ⟨.io cause, rfl, rfl⟩
    | ok result =>
      obtain ⟨moved, after⟩ := result
      exact .inr ⟨_, rfl, opened frame.channel,
        FileSystem.write_opened _ _ _ _ _ _ (opened frame.channel) written⟩

/-- What becomes of it does not depend on anything but the files. -/
theorem send_new_alike (otherId : Nat) (other : World)
    (otherFresh : other.loggers otherId = Logger.new config)
    (same : other.host.files = world.host.files) :
    (other.send emit otherId frame).1 = (world.send emit id frame).1 ∧
      (other.send emit otherId frame).2.host.files = (world.send emit id frame).2.host.files := by
  obtain ⟨answer, host⟩ := send_new id world config frame fresh
  obtain ⟨otherAnswer, otherHost⟩ := send_new otherId other config frame otherFresh
  rw [answer, host, otherAnswer, otherHost, same]
  exact Host.write_alike _ _ _ _ (Logger.targetOf_isKernel _) same

end Fresh
end World

/-! ## One record -/

section Texts

variable (requested : Option Channel) (priority : Priority) (tag message : Bytes)

/-- Whether a text is moved to radio for a caller who named a channel or none. -/
def Routing.MovesText : Prop :=
  Route.Moves (RuleSet.ofRequest requested) (requested.getD .main) tag

/-- A text that is not moved is shown on the channel that it is for. -/
theorem Frame.ofText_stays (stays : ¬ MovesText requested tag) :
    Frame.ofText requested priority tag message =
      Frame.showing (requested.getD .main) priority (cutAtNul tag) (cutAtNul message) := by
  rw [MovesText, Route.Moves, ← radio_tag_cut] at stays
  cases requested with
  | none => exact if_neg stays
  | some channel => exact if_neg stays

end Texts

/-- It matters for three tags whether main is named or no channel is. -/
theorem Routing.movesText_main_iff (tag : Bytes) :
    (MovesText none tag ↔ MovesText (some .main) tag) ↔ cutAtNul tag ∉ defaultOnlyTags := by
  have elsewhere : Channel.main ≠ .radio := by decide
  have unnamed : MovesText none tag ↔ isRadioTag .defaultChannel tag = true :=
    and_iff_right elsewhere
  have named : MovesText (some .main) tag ↔ isRadioTag .explicitChannel tag = true :=
    and_iff_right elsewhere
  rw [unnamed, named, radio_tag_default_iff]
  constructor
  · intro same only
    have matched := same.mp (.inr only)
    rw [ordinary_of_default_only tag only] at matched
    cases matched
  · exact fun other => or_iff_left other

/-- A frame that shows a tag and a message without NULs is a record that reads so. -/
theorem Config.records_showing (config : Config) (files after : FileSystem) (channel : Channel)
    (priority : Priority) (tag message : Bytes) (tagFree : 0 ∉ tag) (messageFree : 0 ∉ message)
    (descriptor : Descriptor)
    (found : files.openForWriting (config.devicePath (config.carrier files channel)) =
      .ok descriptor)
    (written : WrittenAtStart (Frame.showing channel priority tag message).bytes files
      descriptor.sink after) :
    config.Records files channel ⟨priority.toByte, tag, message⟩ after := by
  have bytes : (Frame.showing channel priority tag message).bytes =
      TextRecord.Reading.bytes ⟨priority.toByte, tag, message⟩ := by
    simp [Frame.showing, Frame.bytes, TextRecord.Reading.bytes]
  rw [bytes] at written
  exact ⟨descriptor, found, written, fun rest =>
    (TextRecord.read_iff _ _ _).mpr ⟨⟨tagFree, messageFree⟩, rfl⟩⟩

namespace CommandLine

/-! ## The directory of the devices -/

/-- Which directory the command looks for devices in: the one in its arguments, or else the one that
the environment sets, or else the one in the configuration file, or else the standard one. -/
inductive DeviceDirectory (argument : Option Bytes) (environment : Environment)
    (read : Bytes → Except IoError Bytes) : Bytes → Prop
  | argument {directory : Bytes} (given : argument = some directory) :
      DeviceDirectory argument environment read directory
  | environment {directory : Bytes} (absent : argument = none)
      (set : Sets environment.deviceDir directory) :
      DeviceDirectory argument environment read directory
  | file {path : Bytes} {document : Toml.Document} {text : String} (absent : argument = none)
      (unset : ∀ directory, ¬ Sets environment.deviceDir directory)
      (named : Sets environment.configFile path) (readsAs : ReadsAs read path document)
      (entry : ("device_dir", .string text) ∈ document) :
      DeviceDirectory argument environment read (ofText text)
  | standard (absent : argument = none)
      (unset : ∀ directory, ¬ Sets environment.deviceDir directory)
      (silent : ∀ path document, Sets environment.configFile path →
        ReadsAs read path document → ∀ value, ("device_dir", value) ∉ document) :
      DeviceDirectory argument environment read (ofText "/dev/log")

section Directories

variable {environment : Environment} {read : Bytes → Except IoError Bytes}

/-- What is read at a path is one document at most. -/
theorem readsAs_unique {path : Bytes} {document other : Toml.Document}
    (readsAs : ReadsAs read path document) (again : ReadsAs read path other) :
    other = document := by
  obtain ⟨text, got, parsed⟩ := readsAs
  obtain ⟨otherText, otherGot, otherParsed⟩ := again
  have same : otherText = text :=
    (ofText_inj_iff _ _).mp (Except.ok.inj (otherGot.symm.trans got))
  rw [same, parsed] at otherParsed
  exact (Option.some.inj otherParsed).symm

/-- The directory of a configuration that nothing in the environment overrides is the one in its
file, or the standard one. -/
theorem DeviceDirectory.of_underlies {base : Config}
    (underlies : Underlies read environment.configFile base)
    (unset : ∀ directory, ¬ Sets environment.deviceDir directory) :
    DeviceDirectory none environment read base.deviceDir := by
  cases underlies with
  | default nameless =>
    exact .standard rfl unset fun path document named => (nameless path named).elim
  | @file path document _ named holds =>
    obtain ⟨value, among⟩ | silent := given_or_absent document "device_dir"
    · obtain ⟨text, rfl, _⟩ := holds.acceptable.directory value among
      rw [holds.describes.directory text among]
      exact .file rfl unset named holds.readsAs among
    · rw [holds.describes.noDirectory silent]
      refine .standard rfl unset fun other otherDocument otherNamed otherReads => ?_
      obtain rfl : other = path := Option.some.inj (otherNamed.1.symm.trans named.1)
      rw [readsAs_unique holds.readsAs otherReads]
      exact silent

/-- The configuration of the environment, with the directory in the arguments if there is one, has
the directory of the devices. -/
theorem DeviceDirectory.of_config {base : Config} (argument : Option Bytes)
    (given : environment.config read = .ok base) :
    DeviceDirectory argument environment read (argument.getD base.deviceDir) := by
  cases argument with
  | some directory => exact .argument rfl
  | none =>
    obtain ⟨under, underlies, overrides⟩ := (config_ok_iff base).mp given
    cases overrides with
    | replaced set => exact .environment rfl set
    | kept unset => exact .of_underlies underlies unset

end Directories

/-! ## The run -/

namespace Request

variable (request : Request) (environment : Environment) (wording : DocumentWording)

/-- The call of the command is a text that is written, on the channel in the arguments if there is
one. -/
theorem call_eq : request.call =
    Call.writing request.channel request.priority request.tag (" ".intercalate request.words) := by
  rw [call]
  cases request.channel <;> rfl

/-- So its record is the expected one of the words with a space between each two. -/
theorem frame_eq : request.call.frame =
    Frame.ofText request.channel request.priority (ofText request.tag)
      (ofText (" ".intercalate request.words)) := by
  rw [call_eq, Call.frame_writing]

/-- The configuration of the environment with the directory in the arguments, if there is one. -/
def directed (base : Config) : Config :=
  { base with deviceDir := request.deviceDir.getD base.deviceDir }

/-- The command has a configuration if the environment has one. -/
theorem config_eq (read : Bytes → Except IoError Bytes) :
    request.config environment read = (environment.config read).map request.directed := by
  rw [config]
  cases environment.config read with
  | error cause => rfl
  | ok base =>
    simp only [bind, Except.bind, Except.map, directed]
    cases request.deviceDir <;> rfl

variable (files : FileSystem)

/-- Without a configuration nothing is written. -/
theorem write_unconfigured (cause : ConfigError)
    (refused : environment.config files.read = .error cause) :
    request.write environment wording files = (.error (.config cause), files) := by
  rw [write, config_eq, refused]
  rfl

/-- With one, the record is sent as on any new logger with the configuration of the command, in any
world with these files. -/
theorem write_configured (base : Config) (given : environment.config files.read = .ok base)
    (id : Nat) (world : World) (fresh : world.loggers id = Logger.new (request.directed base))
    (same : world.host.files = files) :
    request.write environment wording files =
      ((world.send emit id request.call.frame).1,
        (world.send emit id request.call.frame).2.host.files) := by
  let bare := World.start files environment wording Facade.bare
  let start := bare.create (request.directed base) .devices
  have written : request.write environment wording files =
      ((start.2.send emit start.1 request.call.frame).1,
        (start.2.send emit start.1 request.call.frame).2.host.files) := by
    rw [write, config_eq, given]
    rfl
  obtain ⟨answer, after⟩ := send_new_alike id world (request.directed base) request.call.frame
    fresh start.1 start.2 rfl same.symm
  rw [written, answer, after]

/-- So the command is that call, on a new logger of any process with these files. -/
theorem write_as_call (base : Config) (given : environment.config files.read = .ok base) (id : Nat)
    (world : World) (fresh : world.loggers id = Logger.new (request.directed base))
    (same : world.host.files = files) :
    ∃ result last,
      world.step (.operate (.numbered id) (.send (Call.writing request.channel request.priority
        request.tag (" ".intercalate request.words)))) = .answered (.sent result) last ∧
      request.write environment wording files = (result, last.host.files) := by
  have written := request.write_configured environment wording files base given id world fresh same
  rw [← call_eq]
  exact ⟨_, _, rfl, written⟩

/-- What a reader learns of the record of the command: the priority in the arguments, the words with
a space between each two, and a tag. -/
def reading (tag : Bytes) : TextRecord.Reading where
  priorityByte := request.priority.toByte
  tag := tag
  message := [32].intercalate (request.words.map ofText)

/-- The record of the command: on radio under a rewritten tag if a text with its tag is moved for
the channel in the arguments, or for none; and otherwise where it is for, under its own tag. -/
structure Recorded (config : Config) (files after : FileSystem) : Prop where
  moved : MovesText request.channel (ofText request.tag) →
    config.Records files .radio
      (request.reading ((rewrittenBeginning ++ ofText request.tag).take 31)) after
  stays : ¬ MovesText request.channel (ofText request.tag) →
    config.Records files (request.channel.getD .main) (request.reading (ofText request.tag)) after

variable {request} (tagFree : 0 ∉ ofText request.tag)
  (wordsFree : ∀ word ∈ request.words, 0 ∉ ofText word)
include tagFree wordsFree

/-- What is written of the record of the command, where it was just opened, is the record it should
be. -/
theorem recorded {config : Config} {files after : FileSystem} {descriptor : Descriptor}
    (found : files.openForWriting
      (config.devicePath (config.carrier files request.call.frame.channel)) = .ok descriptor)
    (written : WrittenAtStart request.call.frame.bytes files descriptor.sink after) :
    request.Recorded config files after := by
  have tagVisible : cutAtNul (ofText request.tag) = ofText request.tag := cut_of_free _ tagFree
  have messageFree : 0 ∉ [32].intercalate (request.words.map ofText) :=
    free_intercalate _ (List.forall_mem_map.mpr wordsFree)
  have message : cutAtNul (ofText (" ".intercalate request.words)) =
      [32].intercalate (request.words.map ofText) := by
    rw [ofText_intercalate]
    exact cut_of_free _ messageFree
  have frame := request.frame_eq
  constructor
  · intro moves
    have rewrittenFree := rewritten_free (ofText request.tag)
    rw [tagVisible] at rewrittenFree
    rw [Frame.ofText_rewritten _ _ _ _ moves.1 moves.2, tagVisible, message] at frame
    rw [frame] at found written
    exact config.records_showing _ _ _ _ _ _ rewrittenFree messageFree _ found written
  · intro stays
    rw [Frame.ofText_stays _ _ _ _ stays, tagVisible, message] at frame
    rw [frame] at found written
    exact config.records_showing _ _ _ _ _ _ tagFree messageFree _ found written

/-- The command fails and leaves the files as they were, or it writes its record. -/
theorem write_cases (base : Config) (given : environment.config files.read = .ok base) :
    (∃ cause, request.write environment wording files = (.error cause, files)) ∨
      ∃ count after, request.write environment wording files = (.ok count, after) ∧
        request.Recorded (request.directed base) files after := by
  let config := request.directed base
  let world := ((World.start files environment wording Facade.bare).create config .devices).2
  have written := request.write_configured environment wording files base given 0 world rfl rfl
  obtain ⟨cause, answer, left⟩ | ⟨descriptor, answer, found, stored⟩ :=
    send_new_cases 0 world config request.call.frame rfl
  · rw [answer, left] at written
    exact .inl ⟨cause, written⟩
  · rw [answer] at written
    exact .inr ⟨_, _, written, recorded tagFree wordsFree found stored⟩

end Request

/-- A report is one of success exactly if the call was answered with a number of bytes. -/
theorem Report.status_iff (wording : DocumentWording) (result : Except Error Nat) :
    (Report.ofResult wording result).status = 0 ↔ ∃ count, result = .ok count := by
  cases result <;> simp [ofResult]

/-- The command from its arguments to its exit status, for any request that they make, in any
environment and with any files; none of the tag and the words holds a NUL.

Where the environment has no configuration, the command fails and leaves the files as they are,
whatever directory is in the arguments. Where it has one, the devices are those in the
directory of the arguments, or else of the environment, or else of the configuration file, or else
in the standard one. The files and the report are then those of one call, on a logger that is new in
any process with these files: a text that is written on the channel in the arguments, or on none,
and whose message is the words with a space between each two. The status is that of success exactly
if the call was answered with a number of bytes, and the files are as they were if it is not. After
a success, one record was written: on radio under a rewritten tag, if the channel in the arguments
is not radio and the tag is one of telephony's, by the rules for callers who name a channel or by
those for callers who name none; and otherwise where it is for, under its own tag. Whoever reads the
record back finds the priority of the arguments, that tag, and the words with a space between each
two.

For three tags, and for no other, it matters whether the arguments name main or no channel. -/
theorem command_writes_one_record {arguments : List Bytes} {request : Request}
    (parsed : Request.ofArguments arguments = .ok request) (tagFree : 0 ∉ ofText request.tag)
    (wordsFree : ∀ word ∈ request.words, 0 ∉ ofText word) (environment : Environment)
    (wording : DocumentWording) (files : FileSystem) :
    let report := (run arguments environment wording files).1
    let after := (run arguments environment wording files).2
    let message := " ".intercalate request.words
    (∀ cause, environment.config files.read = .error cause →
      report.status = 1 ∧ after = files) ∧
    (∀ base, environment.config files.read = .ok base →
      let config := request.directed base
      DeviceDirectory request.deviceDir environment files.read config.deviceDir ∧
      (∀ id (world : World), world.loggers id = Logger.new config → world.host.files = files →
        ∃ result last,
          world.step (.operate (.numbered id) (.send
            (Call.writing request.channel request.priority request.tag message))) =
              .answered (.sent result) last ∧
          after = last.host.files ∧ report = Report.ofResult wording result ∧
          (report.status = 0 ↔ ∃ count, result = .ok count)) ∧
      (report.status ≠ 0 → after = files) ∧
      (report.status = 0 → request.Recorded config files after)) ∧
    ((MovesText none (ofText request.tag) ↔ MovesText (some .main) (ofText request.tag)) ↔
      ofText request.tag ∉ [ofText "QC-NETMGR-LIB", ofText "QC-QDP", ofText "Diag_Lib"]) := by
  intro report after message
  have ran : run arguments environment wording files =
      (Report.ofResult wording (request.write environment wording files).1,
        (request.write environment wording files).2) := by
    rw [run, parsed]
  have reported : report = Report.ofResult wording (request.write environment wording files).1 :=
    congrArg Prod.fst ran
  have left : after = (request.write environment wording files).2 := congrArg Prod.snd ran
  refine ⟨fun cause refused => ?_, fun base given => ?_, ?_⟩
  · rw [reported, left, request.write_unconfigured environment wording files cause refused]
    exact ⟨rfl, rfl⟩
  · refine ⟨.of_config request.deviceDir given, fun id world fresh same => ?_, ?_, ?_⟩
    · obtain ⟨result, last, taken, written⟩ :=
        request.write_as_call environment wording files base given id world fresh same
      rw [written] at reported left
      refine ⟨result, last, taken, left, reported, ?_⟩
      rw [reported]
      exact Report.status_iff wording result
    · intro failed
      obtain ⟨cause, written⟩ | ⟨count, last, written, _⟩ :=
        Request.write_cases environment wording files tagFree wordsFree base given
      · rw [left, written]
      · rw [reported, written] at failed
        exact (failed rfl).elim
    · intro succeeded
      obtain ⟨cause, written⟩ | ⟨count, last, written, recorded⟩ :=
        Request.write_cases environment wording files tagFree wordsFree base given
      · rw [reported, written] at succeeded
        cases succeeded
      · rw [left, written]
        exact recorded
  · have three := movesText_main_iff (ofText request.tag)
    rw [cut_of_free _ tagFree] at three
    exact three

/-- The tag is one of telephony's, no channel is named and system's device is missing. The directory
of the arguments is used, although the environment sets another. The run is one write, and radio has
the record, over the beginning of what was there. -/
theorem telephony_is_written_to_radio :
    let arguments := ["-p", "e", "-t", "RIL", "--device-dir", "/d", "two", "words"].map ofText
    let request : Request := ⟨.error, "RIL", none, some (ofText "/d"), ["two", "words"]⟩
    let place := fun channel : Channel => [ofText "d", ofText channel.deviceName]
    let files :=
      ((FileSystem.initial.apply (place .main) (.file [])).apply
        (place .radio) (.file (List.replicate 32 46))).apply
        (place .events) (.file [])
    let environment : Environment := ⟨none, some (ofText "/elsewhere")⟩
    let config : Config := { Config.default with deviceDir := ofText "/d" }
    let report := (run arguments environment .bare files).1
    let after := (run arguments environment .bare files).2
    let fresh := ((World.start files environment .bare Facade.bare).create config .devices).2
    (Request.ofArguments arguments = .ok request ∧ 0 ∉ ofText request.tag ∧
      ∀ word ∈ request.words, 0 ∉ ofText word) ∧
    report.status = 0 ∧ DeviceDirectory request.deviceDir environment files.read (ofText "/d") ∧
    (∃ count last, fresh.step (.operate (.numbered 0) (.send (.write .error "RIL" "two words"))) =
      .answered (.sent (.ok count)) last ∧ after = last.host.files) ∧
    config.Records files .radio ⟨6, ofText "use-Rlog/RLOG-RIL", ofText "two words"⟩ after ∧
    after.content 1 = [6] ++ ofText "use-Rlog/RLOG-RIL\x00two words\x00" ++ [46, 46, 46] := by
  intro arguments request place files environment config report after fresh
  have parsed : Request.ofArguments arguments = .ok request := by decide +kernel
  have tagFree : 0 ∉ ofText request.tag := by decide
  have wordsFree : ∀ word ∈ request.words, 0 ∉ ofText word := by decide
  have configured : environment.config files.read =
      .ok { Config.default with deviceDir := ofText "/elsewhere" } := by decide +kernel
  have succeeded : report.status = 0 := by decide +kernel
  have stored : after.content 1 =
      [6] ++ ofText "use-Rlog/RLOG-RIL\x00two words\x00" ++ [46, 46, 46] := by decide +kernel
  have moves : MovesText none (ofText "RIL") := ⟨by decide, by decide⟩
  have reading : request.reading ((rewrittenBeginning ++ ofText request.tag).take 31) =
      ⟨6, ofText "use-Rlog/RLOG-RIL", ofText "two words"⟩ := by decide +kernel
  have held :=
    (command_writes_one_record parsed tagFree wordsFree environment .bare files).2.1 _ configured
  have recorded := (held.2.2.2 succeeded).moved moves
  rw [reading] at recorded
  have message : " ".intercalate request.words = "two words" := by decide +kernel
  obtain ⟨result, last, taken, left, _, ends⟩ := held.2.1 0 fresh rfl rfl
  obtain ⟨count, rfl⟩ := ends.mp succeeded
  rw [message] at taken
  exact ⟨⟨parsed, tagFree, wordsFree⟩, succeeded, held.1, ⟨count, last, taken, left⟩, recorded,
    stored⟩

end CommandLine
end KernelLog
