import KernelLog.Host

/-!
# What goes through a descriptor

Devices that are regular files take every record whole. Each descriptor stores its
records one behind the other from the start of its file, whatever the file held, and
its offset is the length of all that went through it. Without a device of its own the
system channel is carried by main's descriptor, whose offset counts both, so that
records of the two never meet; two descriptors on one file do not know of each other.

`Devices.stream` names what goes through a descriptor, `Devices.placements` where it
is stored. Both are said of the records that a memory would keep of the same writes.
-/

namespace KernelLog

namespace Devices

/-! ## Descriptors and what they carry -/

/-- The channel whose descriptor a channel's records go through: its own, unless it has none. -/
def carrier {δ : Type} (devices : Devices δ) (channel : Channel) : Channel :=
  match channel, devices.system with
  | .system, none => .main
  | .system, some _ => .system
  | .main, _ => .main
  | .radio, _ => .radio
  | .events, _ => .events

/-- Records, each under the channel whose descriptor it goes through. -/
def carried {δ : Type} (devices : Devices δ) (records : List (Channel × Bytes)) :
    List (Channel × Bytes) :=
  records.map fun record => (devices.carrier record.1, record.2)

/-- Descriptors on the regular files of the given numbers, at the given offsets. -/
def descriptors (numbers : Devices Nat) (offset : Channel → Nat) : Devices Descriptor where
  main := { sink := .file numbers.main, offset := offset .main }
  radio := { sink := .file numbers.radio, offset := offset .radio }
  events := { sink := .file numbers.events, offset := offset .events }
  system := numbers.system.map fun number => { sink := .file number, offset := offset .system }

/-- Sends bytes through the descriptors of channels, one write after another, until one fails. -/
def sendAll (devices : Devices Descriptor) (files : FileSystem) :
    List (Channel × Bytes) → Except IoError (Devices Descriptor × FileSystem)
  | [] => .ok (devices, files)
  | (channel, bytes) :: rest =>
    match files.write (devices.get channel) bytes with
    | .ok (moved, after) => (devices.set channel moved).sendAll after rest
    | .error cause => .error cause

/-- What goes through the descriptor of a channel: the records of all channels that it carries, in
their order. -/
def stream {δ : Type} (devices : Devices δ) (slot : Channel) (records : List (Channel × Bytes)) :
    Bytes :=
  (records.filter fun record => devices.carrier record.1 == slot).flatMap fun record => record.2

/-- How far records have moved each descriptor. -/
def offsets {δ : Type} (devices : Devices δ) (records : List (Channel × Bytes)) (slot : Channel) :
    Nat :=
  (devices.stream slot records).length

section Carriers

variable (numbers : Devices Nat) (offset : Channel → Nat) (channel : Channel)

/-- The descriptor of a channel is on its file, and its carrier's offset counts. -/
theorem get_descriptors : (numbers.descriptors offset).get channel =
    { sink := .file (numbers.get channel), offset := offset (numbers.carrier channel) } := by
  obtain ⟨main, radio, events, system⟩ := numbers
  cases channel <;> cases system <;> rfl

/-- Moving the descriptor of a channel moves its carrier's alone. -/
theorem set_descriptors (moved : Nat) :
    (numbers.descriptors offset).set channel
        { sink := .file (numbers.get channel), offset := moved } =
      numbers.descriptors fun slot =>
        if slot = numbers.carrier channel then moved else offset slot := by
  obtain ⟨main, radio, events, system⟩ := numbers
  cases channel <;> cases system <;> rfl

variable {δ : Type} (devices : Devices δ)

/-- A carrier stands for all that it carries. -/
theorem get_carrier : devices.get (devices.carrier channel) = devices.get channel := by
  obtain ⟨main, radio, events, system⟩ := devices
  cases channel <;> cases system <;> rfl

/-- Putting a device in the place of a carrier's puts it in the place of all that it carries. -/
theorem set_carrier (device : δ) :
    devices.set (devices.carrier channel) device = devices.set channel device := by
  obtain ⟨main, radio, events, system⟩ := devices
  cases channel <;> cases system <;> rfl

/-- A device that is put in the place of a channel's stands for the channels with the same carrier,
and for no others. -/
theorem get_set (device : δ) (other : Channel) :
    (devices.set channel device).get other =
      if devices.carrier other = devices.carrier channel then device else devices.get other := by
  obtain ⟨main, radio, events, system⟩ := devices
  cases channel <;> cases system <;> cases other <;> rfl

/-- Which channel carries which does not change with a device. -/
theorem carrier_set (device : δ) (other : Channel) :
    (devices.set channel device).carrier other = devices.carrier other := by
  obtain ⟨main, radio, events, system⟩ := devices
  cases channel <;> cases system <;> cases other <;> rfl

/-- Descriptors carry what their numbers do. -/
theorem carrier_descriptors :
    (numbers.descriptors offset).carrier channel = numbers.carrier channel := by
  obtain ⟨main, radio, events, system⟩ := numbers
  cases channel <;> cases system <;> rfl

/-- A further record joins the stream of its carrier and no other. -/
theorem stream_concat (slot : Channel) (records : List (Channel × Bytes))
    (record : Channel × Bytes) :
    devices.stream slot (records ++ [record]) =
      devices.stream slot records ++ if slot = devices.carrier record.1 then record.2 else [] := by
  simp only [stream, List.filter_append, List.flatMap_append]
  by_cases own : devices.carrier record.1 = slot
  · simp [own]
  · have other : slot ≠ devices.carrier record.1 := fun same => own same.symm
    simp [own, other]

end Carriers

/-- It makes no difference whether bytes are sent under a channel or under its carrier. -/
theorem sendAll_carried (devices : Devices Descriptor) (files : FileSystem)
    (records : List (Channel × Bytes)) :
    devices.sendAll files (devices.carried records) = devices.sendAll files records := by
  have general : ∀ current : Devices Descriptor,
      (∀ channel, current.carrier channel = devices.carrier channel) → ∀ files,
        current.sendAll files (devices.carried records) = current.sendAll files records := by
    induction records with
    | nil => intros; rfl
    | cons record rest inductionHypothesis =>
      intro current same files
      simp only [carried, List.map_cons, sendAll, ← same record.1, get_carrier, set_carrier]
      split
      · exact inductionHypothesis _ (fun channel => (carrier_set _ _ _ _).trans (same channel)) _
      · rfl
  exact general devices (fun _ => rfl) files

end Devices

/-! ## Where records are stored -/

/-- Bytes that the descriptor of a channel stores in a file, from an offset on. -/
structure Placement where
  slot : Channel
  file : Nat
  offset : Nat
  bytes : Bytes
  deriving DecidableEq

/-- Contents of a file with bytes stored in them. -/
def Placement.into (content : Bytes) (placed : Placement) : Bytes :=
  Bytes.overwrite content placed.offset placed.bytes

/-- Stores bytes in their file. -/
def Placement.store (files : FileSystem) (placed : Placement) : FileSystem :=
  files.setContent placed.file (placed.into (files.content placed.file))

/-- Where records are stored that follow others: each in its file, as far from the start as its
descriptor has been moved by the records before it. -/
def Devices.placements (numbers : Devices Nat) (before : List (Channel × Bytes)) :
    List (Channel × Bytes) → List Placement
  | [] => []
  | record :: rest =>
    { slot := numbers.carrier record.1
      file := numbers.get record.1
      offset := numbers.offsets before (numbers.carrier record.1)
      bytes := record.2 } :: numbers.placements (before ++ [record]) rest

/-- A file holds what was stored in it, one after another, in what it held. What is stored in others
does not reach it. -/
theorem Placement.content_stored (placements : List Placement) (files : FileSystem) (number : Nat) :
    (placements.foldl store files).content number =
      (placements.filter fun placed => placed.file == number).foldl into
        (files.content number) := by
  induction placements generalizing files with
  | nil => rfl
  | cons placed rest inductionHypothesis =>
    simp only [List.foldl_cons, inductionHypothesis, List.filter_cons, store,
      FileSystem.content_setContent]
    by_cases here : placed.file = number
    · simp [here]
    · have elsewhere : number ≠ placed.file := fun same => here same.symm
      simp [here, elsewhere]

/-- Storing changes no names. -/
theorem Placement.entries_stored (placements : List Placement) (files : FileSystem) :
    (placements.foldl store files).entries = files.entries := by
  induction placements generalizing files with
  | nil => rfl
  | cons placed rest inductionHypothesis =>
    rw [List.foldl_cons, inductionHypothesis]
    rfl

namespace Devices

variable (numbers : Devices Nat)

/-- A record moves its carrier's descriptor by its length and no other. -/
theorem offsets_concat (records : List (Channel × Bytes)) (record : Channel × Bytes)
    (slot : Channel) :
    numbers.offsets (records ++ [record]) slot =
      numbers.offsets records slot +
        if slot = numbers.carrier record.1 then record.2.length else 0 := by
  rw [offsets, stream_concat, List.length_append, offsets]
  split <;> rfl

/-- Descriptors that some records have moved store those that follow right behind them, and are
moved by them as well. -/
theorem sendAll_descriptors (before records : List (Channel × Bytes)) (files : FileSystem) :
    (numbers.descriptors (numbers.offsets before)).sendAll files records =
      .ok (numbers.descriptors (numbers.offsets (before ++ records)),
        (numbers.placements before records).foldl Placement.store files) := by
  induction records generalizing before files with
  | nil => simp [sendAll, placements]
  | cons record rest inductionHypothesis =>
    have moved : (fun slot => if slot = numbers.carrier record.1 then
          numbers.offsets before (numbers.carrier record.1) + record.2.length
        else numbers.offsets before slot) = numbers.offsets (before ++ [record]) := by
      funext slot
      rw [offsets_concat]
      split
      · rename_i same
        rw [same]
      · rfl
    simp only [sendAll, get_descriptors, FileSystem.write, set_descriptors, moved,
      inductionHypothesis, placements, List.foldl_cons, List.append_assoc, List.singleton_append]
    rfl

/-- Whatever follows some records is stored behind them, as far as one descriptor goes. -/
theorem offset_of_placed (before records : List (Channel × Bytes)) :
    ∀ placed ∈ numbers.placements before records,
      numbers.offsets before placed.slot ≤ placed.offset := by
  induction records generalizing before with
  | nil => exact List.forall_mem_nil _
  | cons record rest inductionHypothesis =>
    refine List.forall_mem_cons.mpr ⟨Nat.le_refl _, fun placed member => ?_⟩
    have further := inductionHypothesis (before ++ [record]) placed member
    rw [offsets_concat] at further
    exact Nat.le_trans (Nat.le_add_right _ _) further

/-- What one descriptor stores never overlaps: each record begins behind the ends of all before it,
whichever of its channels they were for. -/
theorem placements_apart (before records : List (Channel × Bytes)) :
    (numbers.placements before records).Pairwise fun earlier later =>
      earlier.slot = later.slot → earlier.offset + earlier.bytes.length ≤ later.offset := by
  induction records generalizing before with
  | nil => exact List.Pairwise.nil
  | cons record rest inductionHypothesis =>
    refine List.Pairwise.cons (fun placed member same => ?_) (inductionHypothesis _)
    have further := numbers.offset_of_placed _ _ placed member
    rw [offsets_concat, ← same, if_pos rfl] at further
    exact further

/-- A file that one descriptor alone is on begins with what went through that descriptor, and behind
that it is as it was. -/
theorem content_alone (slot : Channel) (before records : List (Channel × Bytes))
    (files : FileSystem) (old : Bytes)
    (alone : ∀ channel, numbers.get channel = numbers.get slot → numbers.carrier channel = slot)
    (held : files.content (numbers.get slot) =
      numbers.stream slot before ++ old.drop (numbers.stream slot before).length) :
    ((numbers.placements before records).foldl Placement.store files).content (numbers.get slot) =
      numbers.stream slot (before ++ records) ++
        old.drop (numbers.stream slot (before ++ records)).length := by
  induction records generalizing before files with
  | nil => simpa [placements] using held
  | cons record rest inductionHypothesis =>
    have next := inductionHypothesis (before ++ [record])
    rw [List.append_assoc, List.singleton_append] at next
    rw [placements, List.foldl_cons]
    refine next _ ?_
    simp only [Placement.store, FileSystem.content_setContent, stream_concat]
    by_cases same : numbers.get slot = numbers.get record.1
    · have own : numbers.carrier record.1 = slot := alone record.1 same.symm
      simp only [Placement.into, offsets, own, ← same, held, Bytes.overwrite_behind,
        ↓reduceIte, List.drop_drop, List.length_append]
    · have other : slot ≠ numbers.carrier record.1 := by
        intro own
        rw [own, get_carrier] at same
        exact same rfl
      simp only [if_neg same, if_neg other, List.append_nil, held]

end Devices
end KernelLog
