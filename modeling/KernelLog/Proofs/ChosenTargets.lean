import KernelLog.Proofs.Deliveries
import KernelLog.Proofs.OwnReports

/-!
# The choice of a target

A logger of the devices requests all four of them at one moment, and what the file
system answers at that moment decides on its target. A target only moves its
offsets afterwards: `rewound` takes those moves back, and `Target.ChosenFrom` says
which target a configuration leads to, moved on or not.
-/

namespace KernelLog

/-! ## What a target keeps -/

/-- A descriptor as it was when it was opened. -/
def Descriptor.rewound (descriptor : Descriptor) : Descriptor := { descriptor with offset := 0 }

/-- Devices as they were when they were opened. -/
def Devices.rewound (devices : Devices Descriptor) : Devices Descriptor where
  main := devices.main.rewound
  radio := devices.radio.rewound
  events := devices.events.rewound
  system := devices.system.map Descriptor.rewound

/-- A target as it was when it was chosen. -/
def Target.rewound : Target → Target
  | .devices opened => .devices opened.rewound
  | .nothing => .nothing
  | .memory number => .memory number
  | .custom number => .custom number

/-- Putting a device in the place of one that was opened alike does not show from the start. -/
theorem Devices.rewound_set (devices : Devices Descriptor) (channel : Channel)
    (descriptor : Descriptor) (alike : descriptor.rewound = (devices.get channel).rewound) :
    (devices.set channel descriptor).rewound = devices.rewound := by
  obtain ⟨main, radio, events, system⟩ := devices
  cases channel with
  | main => simpa [Devices.set, Devices.rewound, Devices.get] using alike
  | radio => simpa [Devices.set, Devices.rewound, Devices.get] using alike
  | events => simpa [Devices.set, Devices.rewound, Devices.get] using alike
  | system =>
    cases system with
    | none => simpa [Devices.set, Devices.rewound, Devices.get] using alike
    | some own => simpa [Devices.set, Devices.rewound, Devices.get] using alike

/-- A write moves a descriptor and leaves it open on what it was opened on. -/
theorem FileSystem.rewound_write (files after : FileSystem) (descriptor moved : Descriptor)
    (bytes : Bytes) (written : files.write descriptor bytes = .ok (moved, after)) :
    moved.rewound = descriptor.rewound := by
  unfold FileSystem.write at written
  split at written
  · obtain ⟨rfl, _⟩ := Prod.mk.inj (Except.ok.inj written)
    rfl
  · obtain ⟨rfl, _⟩ := Prod.mk.inj (Except.ok.inj written)
    rfl
  · cases written

/-- Writing to a target does not change what was chosen. -/
theorem Host.rewound_write (host : Host) (target : Target) (frame : Frame) :
    (host.write target frame).target.rewound = target.rewound := by
  cases target with
  | devices devices =>
    simp only [Host.write]
    split
    · rename_i moved after written
      have alike := FileSystem.rewound_write _ _ _ _ _ written
      simp only [Target.rewound, Devices.rewound_set devices frame.channel moved alike]
    · rfl
  | nothing => rfl
  | memory number => rfl
  | custom number => rfl

/-! ## The moment of the choice -/

namespace Config

/-- Whether the device of a channel opens for writing in a file system. -/
def opens (config : Config) (files : FileSystem) (channel : Channel) : Bool :=
  (files.openForWriting (config.devicePath channel)).toBool

/-- Whether the devices that have to open do so in a file system. -/
def opensCore (config : Config) (files : FileSystem) : Bool :=
  config.opens files .main && config.opens files .radio && config.opens files .events

end Config

/-- The target that a configuration leads to in a file system, moved on or not: the devices exactly
if main, radio and events open there, each still on what was found then, with system in main's place
exactly if its own does not open; and nothing otherwise. -/
structure Target.ChosenFrom (config : Config) (moment : FileSystem) (target : Target) : Prop where
  devices_iff : (∃ devices, target = .devices devices) ↔ config.opensCore moment = true
  nothing_iff : target = .nothing ↔ config.opensCore moment = false
  shares_iff : ∀ devices, target = .devices devices →
    (devices.system = none ↔ config.opens moment .system = false)
  sinks : ∀ devices, target = .devices devices → ∀ channel descriptor,
    moment.openForWriting (config.devicePath channel) = .ok descriptor →
    (devices.get channel).sink = descriptor.sink

/-- A device that opens gives a descriptor. -/
theorem Config.opens_iff (config : Config) (files : FileSystem) (channel : Channel) :
    config.opens files channel = true ↔
      ∃ descriptor, files.openForWriting (config.devicePath channel) = .ok descriptor := by
  unfold Config.opens
  cases files.openForWriting (config.devicePath channel) <;> simp [Except.toBool]

/-- A device that does not open gives none. -/
theorem Config.not_opens_iff (config : Config) (files : FileSystem) (channel : Channel) :
    config.opens files channel = false ↔
      (files.openForWriting (config.devicePath channel)).toOption = none := by
  unfold Config.opens
  cases files.openForWriting (config.devicePath channel) <;> simp [Except.toBool, Except.toOption]

/-- If the devices that have to open do so, they are the target. -/
theorem Logger.targetOf_core (config : Config) (files : FileSystem)
    (core : config.opensCore files = true) :
    ∃ main radio events,
      files.openForWriting (config.devicePath .main) = .ok main ∧
      files.openForWriting (config.devicePath .radio) = .ok radio ∧
      files.openForWriting (config.devicePath .events) = .ok events ∧
      targetOf ((Logger.new config).tryOpen files) = .devices
        { main := main, radio := radio, events := events
          system := (files.openForWriting (config.devicePath .system)).toOption } := by
  simp only [Config.opensCore, Bool.and_eq_true, Config.opens_iff] at core
  obtain ⟨⟨⟨main, openMain⟩, radio, openRadio⟩, events, openEvents⟩ := core
  refine ⟨main, radio, events, openMain, openRadio, openEvents, ?_⟩
  simp [targetOf, tryOpen, Attempts.gather, Attempts.devices?, Logger.new, openMain, openRadio,
    openEvents]

/-- If one of them does not, there is no target but nothing. -/
theorem Logger.targetOf_not_core (config : Config) (files : FileSystem)
    (failed : config.opensCore files = false) :
    targetOf ((Logger.new config).tryOpen files) = .nothing := by
  simp only [Config.opensCore, Config.opens] at failed
  simp only [targetOf, tryOpen, Attempts.gather, Attempts.devices?, Logger.new]
  cases openMain : files.openForWriting (config.devicePath .main) <;>
    cases openRadio : files.openForWriting (config.devicePath .radio) <;>
      cases openEvents : files.openForWriting (config.devicePath .events) <;>
        simp_all [Except.toBool]

/-- A file is opened at its start. -/
theorem FileSystem.openForWriting_rewound (files : FileSystem) (path : Bytes)
    (descriptor : Descriptor) (found : files.openForWriting path = .ok descriptor) :
    descriptor.rewound = descriptor := by
  simp only [openForWriting, bind, Except.bind] at found
  split at found
  · cases found
  · split at found <;> cases found <;> rfl

/-- What is chosen has not moved yet. -/
theorem Logger.rewound_targetOf (config : Config) (files : FileSystem) :
    (targetOf ((Logger.new config).tryOpen files)).rewound =
      targetOf ((Logger.new config).tryOpen files) := by
  cases core : config.opensCore files with
  | false => rw [targetOf_not_core config files core]; rfl
  | true =>
    obtain ⟨main, radio, events, openMain, openRadio, openEvents, same⟩ :=
      targetOf_core config files core
    have atStart := FileSystem.openForWriting_rewound files
    rw [same]
    simp only [Target.rewound, Devices.rewound, atStart _ _ openMain, atStart _ _ openRadio,
      atStart _ _ openEvents]
    cases openSystem : files.openForWriting (config.devicePath .system) with
    | error cause => rfl
    | ok own => simp only [Except.toOption, Option.map_some, atStart _ _ openSystem]

/-- Whatever a target has moved on to since, it is the one that was chosen. -/
theorem Target.chosenFrom_of_rewound (config : Config) (moment : FileSystem) (target : Target)
    (chosen : target.rewound = Logger.targetOf ((Logger.new config).tryOpen moment)) :
    target.ChosenFrom config moment := by
  cases core : config.opensCore moment with
  | false =>
    rw [Logger.targetOf_not_core config moment core] at chosen
    cases target with
    | nothing => exact ⟨by simp [core], by simp [core], nofun, nofun⟩
    | devices opened => cases chosen
    | memory number => cases chosen
    | custom number => cases chosen
  | true =>
    obtain ⟨main, radio, events, openMain, openRadio, openEvents, same⟩ :=
      Logger.targetOf_core config moment core
    rw [same] at chosen
    cases target with
    | nothing => cases chosen
    | memory number => cases chosen
    | custom number => cases chosen
    | devices opened =>
      have alike : opened.rewound = _ := Target.devices.inj chosen
      have sinkMain := congrArg (fun devices => devices.main.sink) alike
      have sinkRadio := congrArg (fun devices => devices.radio.sink) alike
      have sinkEvents := congrArg (fun devices => devices.events.sink) alike
      have ownSystem := congrArg Devices.system alike
      simp only [Devices.rewound, Descriptor.rewound] at sinkMain sinkRadio sinkEvents ownSystem
      refine ⟨by simp [core], by simp [core], ?_, ?_⟩
      · rintro _ ⟨rfl⟩
        rw [Config.not_opens_iff, ← ownSystem, Option.map_eq_none_iff]
      · rintro _ ⟨rfl⟩ channel descriptor found
        cases channel with
        | main => rw [Except.ok.inj (openMain.symm.trans found)] at sinkMain; exact sinkMain
        | radio => rw [Except.ok.inj (openRadio.symm.trans found)] at sinkRadio; exact sinkRadio
        | events => rw [Except.ok.inj (openEvents.symm.trans found)] at sinkEvents; exact sinkEvents
        | system =>
          rw [found] at ownSystem
          obtain ⟨own, isOwn, rfl⟩ := Option.map_eq_some_iff.mp ownSystem
          simp only [Devices.get, isOwn, Option.getD_some, Descriptor.rewound]

namespace Target.ChosenFrom

variable {config : Config} {moment : FileSystem} {target : Target}

/-- A chosen target is the devices or nothing. -/
theorem cases (chosen : target.ChosenFrom config moment) :
    (config.opensCore moment = true ∧ ∃ devices, target = .devices devices) ∨
      (config.opensCore moment = false ∧ target = .nothing) := by
  cases core : config.opensCore moment with
  | true => exact .inl ⟨rfl, chosen.devices_iff.mpr core⟩
  | false => exact .inr ⟨rfl, chosen.nothing_iff.mpr core⟩

/-- A chosen target takes frames exactly if the devices that have to open did. -/
theorem isAvailable (chosen : target.ChosenFrom config moment) (host : Host) :
    host.isAvailable target = config.opensCore moment := by
  obtain ⟨core, devices, rfl⟩ | ⟨failed, rfl⟩ := chosen.cases
  · exact core.symm
  · exact failed.symm

/-- A chosen target refuses a frame as unavailable exactly if it takes none. A device that fails to
write gives another error. -/
theorem refuses_iff (chosen : target.ChosenFrom config moment) (host : Host) (frame : Frame) :
    (host.write target frame).answer = .error .unavailable ↔ config.opensCore moment = false := by
  obtain ⟨core, devices, rfl⟩ | ⟨failed, rfl⟩ := chosen.cases
  · rw [core]
    simp only [Host.write]
    split <;> simp
  · simp [failed, Host.write]

end Target.ChosenFrom

namespace World

/-- The requests of an opening come in the order main, radio, events, system, and none is left out
whatever becomes of those before it. -/
theorem gather_openDevice (id : Nat) (world : World) :
    Attempts.gather (openDevice id) world =
      ((world.loggers id).tryOpen world.host.files,
        { world with openings := world.openings ++
          [.device id .main, .device id .radio, .device id .events, .device id .system] }) := by
  have oneByOne : world.openings ++
        [.device id .main, .device id .radio, .device id .events, .device id .system] =
      world.openings ++ [.device id .main] ++ [.device id .radio] ++ [.device id .events] ++
        [.device id .system] := by
    simp only [List.append_assoc, List.cons_append, List.nil_append]
  rw [oneByOne]
  rfl

/-- A logger that waits for its target gets the one that its devices lead to at this moment. Beyond
that only the requests are noted, and the facade may keep the reports. -/
theorem obtain_of_unopened (id : Nat) (world : World)
    (waiting : (world.loggers id).dispatch = .unopened) :
    let attempts := (world.loggers id).tryOpen world.host.files
    world.obtain emit id =
      { world.boundTo id (Logger.targetOf attempts) world.host with
        facade :=
          (attempts.reports (world.loggers id).config.deviceDir).foldl Facade.noting world.facade
        openings := world.openings ++
          [.device id .main, .device id .radio, .device id .events, .device id .system] } := by
  intro attempts
  have same : ((world.loggers id).withDispatch .opening).tryOpen world.host.files = attempts := rfl
  simp only [obtain, waiting, gather_openDevice, setLogger, Numbered.set_same, same]
  rw [emit_discreet.emit_all _ _ (Attempts.reports_internal _ _)]
  simp only [boundTo, setLogger, Logger.withDispatch, Numbered.set_same, Numbered.set_set]

end World
end KernelLog
