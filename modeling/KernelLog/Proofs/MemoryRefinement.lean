import KernelLog.Proofs.CallRuns
import KernelLog.Proofs.DeviceStreams

/-!
# Devices on files do what a memory does

The same calls are made on a logger whose devices are regular files and on one that
writes to a memory. Every call has the same answer on both, and the memory tells what
the files hold: the records that it has kept are what went through the descriptors,
each in its place.

Both runs are walks of the host over the same frames. The walk through descriptors
is `Devices.sendAll`, which `DeviceStreams` describes; the walk into a memory keeps the
frames as they come.
-/

namespace KernelLog

/-- A frame as a memory keeps it. -/
def Frame.record (frame : Frame) : Channel × Bytes := (frame.channel, frame.bytes)

/-- A memory keeps all frames in their order and answers each with its size. -/
theorem Host.writeAll_memory (host : Host) (number : Nat) (frames : List Frame) :
    let kept := host.memories number ++ frames.map Frame.record
    host.writeAll (.memory number) frames =
      { answers := frames.map fun frame => .ok frame.size
        target := .memory number
        host := { host with memories := host.memories.set number kept } } := by
  induction frames generalizing host with
  | nil => simp [writeAll]
  | cons frame rest inductionHypothesis =>
    simp only [writeAll, write, inductionHypothesis, Numbered.set_same, Numbered.set_set,
      List.map_cons, Frame.record, List.append_assoc, List.singleton_append]

/-- Devices through which all records can be sent answer each frame with its size. -/
theorem Host.writeAll_devices (host : Host) (devices moved : Devices Descriptor)
    (files : FileSystem) (frames : List Frame)
    (sent : devices.sendAll host.files (frames.map Frame.record) = .ok (moved, files)) :
    host.writeAll (.devices devices) frames =
      { answers := frames.map fun frame => .ok frame.size
        target := .devices moved
        host := { host with files := files } } := by
  induction frames generalizing host devices with
  | nil =>
    obtain ⟨rfl, rfl⟩ := Prod.mk.inj (Except.ok.inj sent)
    rfl
  | cons frame rest inductionHypothesis =>
    simp only [List.map_cons, Frame.record, Devices.sendAll] at sent
    split at sent
    · rename_i next after written
      have later := inductionHypothesis { host with files := after } _ sent
      simp only [writeAll, write, written, later, List.map_cons]
    · cases sent

/-- The devices of a configuration are regular files of the given numbers: main, radio and events
open there, and system does too or does not open at all. -/
structure Devices.OpenOn (numbers : Devices Nat) (config : Config) (files : FileSystem) : Prop where
  main : files.openForWriting (config.devicePath .main) =
    .ok { sink := .file numbers.main, offset := 0 }
  radio : files.openForWriting (config.devicePath .radio) =
    .ok { sink := .file numbers.radio, offset := 0 }
  events : files.openForWriting (config.devicePath .events) =
    .ok { sink := .file numbers.events, offset := 0 }
  system : (files.openForWriting (config.devicePath .system)).toOption =
    numbers.system.map fun number => { sink := .file number, offset := 0 }

/-- Devices on regular files are chosen, all at the start of their files. -/
theorem Devices.OpenOn.targetOf_eq (numbers : Devices Nat) (config : Config) (files : FileSystem)
    (openOn : numbers.OpenOn config files) :
    Logger.targetOf ((Logger.new config).tryOpen files) =
      .devices (numbers.descriptors (numbers.offsets [])) := by
  simp [Logger.targetOf, Logger.tryOpen, Attempts.gather, Attempts.devices?, Logger.new,
    openOn.main, openOn.radio, openOn.events, openOn.system, descriptors, offsets, stream]

/-- Calls on a new logger whose devices are regular files are the walk through their descriptors,
which are opened for the first call. -/
theorem World.run_calls_new (config : Config) (world : World) (id : Nat) (numbers : Devices Nat)
    (calls : List Call) (fresh : world.loggers id = Logger.new config)
    (openOn : numbers.OpenOn config world.host.files) :
    let records := (calls.map Call.frame).map Frame.record
    let kernel := run (calls.map (Call.step id)) world
    kernel.answers = (calls.map Call.frame).map (fun frame => .sent (.ok frame.size)) ∧
      kernel.aborted = false ∧
      kernel.world.host.files =
        (numbers.placements [] records).foldl Placement.store world.host.files ∧
      (calls ≠ [] → (kernel.world.loggers id).dispatch =
        .chosen (.devices (numbers.descriptors (numbers.offsets records)))) := by
  intro records kernel
  cases calls with
  | nil => exact ⟨rfl, rfl, rfl, fun some => (some rfl).elim⟩
  | cons first rest =>
    have waiting : (world.loggers id).dispatch = .unopened := by
      rw [fresh]
      rfl
    have opened := obtain_of_unopened id world waiting
    have chosen := openOn.targetOf_eq numbers config world.host.files
    simp only [fresh, chosen] at opened
    have bound : ((world.obtain emit id).loggers id).dispatch =
        .chosen (.devices (numbers.descriptors (numbers.offsets []))) := by
      rw [opened]
      simp only [boundTo_logger, Logger.withDispatch]
    have sameFiles : (world.obtain emit id).host.files = world.host.files := by
      rw [opened]
      rfl
    have sent := numbers.sendAll_descriptors [] records (world.obtain emit id).host.files
    have written := Host.writeAll_devices _ _ _ _ _ sent
    have walked := run_calls (world.obtain emit id) id _ (first :: rest) bound
    have ready : kernel = run ((first :: rest).map (Call.step id)) (world.obtain emit id) :=
      run_calls_ready id world (first :: rest) ⟨_, bound⟩ (List.cons_ne_nil _ _)
    rw [written] at walked
    rw [ready, walked]
    refine ⟨by simp only [List.map_map, Function.comp_def], rfl, ?_, fun _ => ?_⟩
    · rw [boundTo_host, sameFiles]
    · simp only [boundTo_logger, Logger.withDispatch, List.nil_append]

/-- A new logger whose devices are regular files does with any calls what a logger on an empty
memory does, and the memory tells what has become of the files.

Every call has the same answer on both. The memory's records, in the order of the calls, are what
was sent through the descriptors: each through its channel's own, or through main's for the system
channel without one, and every descriptor is as far from its start as the records that went through
it are long. A file holds what was stored in it one after another, each record at the offset of its
descriptor, so that what one descriptor stores never overlaps; names and other files stay. If one
descriptor alone is on a file, the file begins with what went through it and goes on as it was. -/
theorem devices_refine_memory (config : Config) (world reference : World) (id other number : Nat)
    (numbers : Devices Nat) (calls : List Call) (fresh : world.loggers id = Logger.new config)
    (openOn : numbers.OpenOn config world.host.files)
    (bound : (reference.loggers other).dispatch = .chosen (.memory number))
    (empty : reference.host.memories number = []) :
    let kernel := World.run (calls.map (Call.step id)) world
    let memory := World.run (calls.map (Call.step other)) reference
    let records := memory.world.host.memories number
    let before := world.host.files
    let after := kernel.world.host.files
    let placements := numbers.placements [] records
    (kernel.answers = memory.answers ∧ kernel.aborted = false ∧ memory.aborted = false) ∧
    records = calls.map (fun call => call.frame.record) ∧
    (calls ≠ [] → ∃ devices,
      (kernel.world.loggers id).dispatch = .chosen (.devices devices) ∧
      (numbers.descriptors fun _ => 0).sendAll before (numbers.carried records) =
        .ok (devices, after) ∧
      devices = numbers.descriptors fun slot => (numbers.stream slot records).length) ∧
    (after.entries = before.entries ∧
      (∀ file, after.content file =
        (placements.filter fun placed => placed.file == file).foldl Placement.into
          (before.content file)) ∧
      placements.Pairwise fun earlier later =>
        earlier.slot = later.slot → earlier.offset + earlier.bytes.length ≤ later.offset) ∧
    ∀ slot, (∀ channel, numbers.get channel = numbers.get slot → numbers.carrier channel = slot) →
      after.content (numbers.get slot) = numbers.stream slot records ++
        (before.content (numbers.get slot)).drop (numbers.stream slot records).length := by
  intro kernel memory records before after placements
  have remembered := World.run_calls reference other (.memory number) calls bound
  rw [Host.writeAll_memory, empty, List.nil_append] at remembered
  have kept : records = (calls.map Call.frame).map Frame.record := by
    simp only [records, memory, remembered, World.boundTo_host, Numbered.set_same]
  obtain ⟨answers, survived, stored, chosen⟩ :=
    World.run_calls_new config world id numbers calls fresh openOn
  rw [← kept] at stored chosen
  have stored : after = placements.foldl Placement.store before := stored
  refine ⟨⟨?_, survived, ?_⟩, ?_, fun some => ⟨_, chosen some, ?_, rfl⟩, ⟨?_, fun file => ?_, ?_⟩,
    fun slot alone => ?_⟩
  · rw [answers]
    simp only [memory, remembered, List.map_map, Function.comp_def]
  · simp only [memory, remembered]
  · rw [kept, List.map_map]
    rfl
  · have carried := (numbers.descriptors fun _ => 0).sendAll_carried before records
    simp only [Devices.carried, Devices.carrier_descriptors] at carried
    have sent := numbers.sendAll_descriptors [] records before
    exact carried.trans (sent.trans (congrArg _ (congrArg _ stored.symm)))
  · rw [stored, Placement.entries_stored]
  · rw [stored, Placement.content_stored]
  · exact numbers.placements_apart [] records
  · rw [stored]
    exact numbers.content_alone slot [] records before (before.content (numbers.get slot)) alone rfl

/-- The system device is missing and the events device is a link to radio's. Main's file takes the
records of main and system one behind the other and keeps its own end; the two descriptors on the
other file write over each other. -/
theorem linked_devices_overwrite_shared_ones_do_not :
    let place := fun channel : Channel =>
      [Bytes.ofText "dev", Bytes.ofText "log", Bytes.ofText channel.deviceName]
    let files :=
      ((FileSystem.initial.apply (place .main) (.file (Bytes.ofText "0123456789AB"))).apply
        (place .radio) (.file [])).apply (place .events) (.link (Bytes.ofText "radio"))
    let world := World.start files ⟨none, none⟩ .bare .bare
    let reference := (world.create Config.default .memory).2
    let numbers : Devices Nat := { main := 0, radio := 1, events := 1, system := none }
    let calls : List Call :=
      [.write .info "a" "1", .eventInt 1 2, .writeTo .radio .warn "r" "3",
        .writeTo .system .warn "b" "2"]
    let after := (World.run (calls.map (Call.step 0)) world).world.host.files
    (world.loggers 0 = Logger.new Config.default ∧ numbers.OpenOn Config.default world.host.files ∧
      (reference.loggers 0).dispatch = .chosen (.memory 0) ∧ reference.host.memories 0 = []) ∧
    after.content 0 =
      [4] ++ Bytes.ofText "a\x001\x00" ++ [5] ++ Bytes.ofText "b\x002\x00" ++ Bytes.ofText "AB" ∧
    after.content 1 = [5] ++ Bytes.ofText "r\x003\x00" ++ [2, 0, 0, 0] := by
  intro place files world reference numbers calls after
  have openOn : numbers.OpenOn Config.default world.host.files :=
    ⟨by decide +kernel, by decide +kernel, by decide +kernel, by decide +kernel⟩
  have held := devices_refine_memory Config.default world reference 0 0 0 numbers calls rfl openOn
    rfl rfl
  have records := held.2.1
  have stored := held.2.2.2.1.2.1
  have alone : ∀ channel, numbers.get channel = numbers.get .main →
      numbers.carrier channel = .main := by
    intro channel same
    cases channel with
    | main => rfl
    | system => rfl
    | radio => cases same
    | events => cases same
  have begins := held.2.2.2.2 .main alone
  rw [records] at stored begins
  refine ⟨⟨rfl, openOn, rfl, rfl⟩, ?_, ?_⟩
  · exact begins.trans (by decide)
  · exact (stored 1).trans (by decide)

end KernelLog
