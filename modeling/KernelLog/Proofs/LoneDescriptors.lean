import KernelLog.Proofs.MemoryRefinement

/-!
# Files that one descriptor is alone on

Of the devices of a logger one may refuse every record, another swallow them all. A
regular file that a single descriptor is on does not know: it takes the records that
go through its descriptor, one behind the other from its start, and keeps of what it
held before only what is not covered yet.
-/

namespace KernelLog

/-- The file of a given number is open on one descriptor alone, which is a given channel's own. -/
structure Devices.Alone (devices : Devices Descriptor) (slot : Channel) (number : Nat) : Prop where
  carries : devices.carrier slot = slot
  only : ∀ channel, (devices.get channel).sink = .file number ↔ devices.carrier channel = slot

/-- Moving a descriptor leaves one alone that was alone on its file. -/
theorem Devices.Alone.set {devices : Devices Descriptor} {slot : Channel} {number : Nat}
    (alone : devices.Alone slot number) (channel : Channel) (moved : Descriptor)
    (same : moved.sink = (devices.get channel).sink) :
    (devices.set channel moved).Alone slot number := by
  refine ⟨by rw [carrier_set, alone.carries], fun other => ?_⟩
  rw [carrier_set, get_set, ← alone.only other]
  by_cases carried : devices.carrier other = devices.carrier channel
  · rw [if_pos carried, same, ← get_carrier channel devices, ← carried, get_carrier]
  · rw [if_neg carried]

/-- A descriptor that is alone on its file and stands behind some bytes that went through it, over
what the file held before. -/
structure Host.Streams (host : Host) (devices : Devices Descriptor) (slot : Channel) (number : Nat)
    (stream old : Bytes) : Prop where
  alone : devices.Alone slot number
  offset : (devices.get slot).offset = stream.length
  content : host.files.content number = stream ++ old.drop stream.length

/-- A frame goes through a descriptor that is alone on its file exactly if that descriptor carries
its channel. Then its bytes are stored at the offset and move it; otherwise neither the file nor the
descriptor is touched, whatever becomes of the frame. -/
theorem Host.Streams.write {host : Host} {devices : Devices Descriptor} {slot : Channel}
    {number : Nat} {stream old : Bytes} (held : host.Streams devices slot number stream old)
    (frame : Frame) :
    ∃ moved : Devices Descriptor, (host.write (.devices devices) frame).target = .devices moved ∧
      (∀ channel, moved.carrier channel = devices.carrier channel) ∧
      (host.write (.devices devices) frame).host.Streams moved slot number
        (stream ++ if devices.carrier frame.channel = slot then frame.bytes else []) old := by
  obtain ⟨alone, offset, content⟩ := held
  have carriers := fun moved => devices.carrier_set frame.channel moved
  by_cases carried : devices.carrier frame.channel = slot
  · have same : devices.get frame.channel = devices.get slot := by
      rw [← carried, Devices.get_carrier]
    have sink : (devices.get slot).sink = .file number := by
      rw [← same]
      exact (alone.only frame.channel).mpr carried
    simp only [Host.write, FileSystem.write, same, sink, if_pos carried]
    refine ⟨_, rfl, carriers _, alone.set _ _ (by rw [same, sink]), ?_, ?_⟩
    · rw [Devices.get_set, if_pos (alone.carries.trans carried.symm), offset, List.length_append]
    · simp only [FileSystem.content_setContent, if_pos, content, offset, Bytes.overwrite_behind,
        List.drop_drop, List.length_append]
  · have apart : ¬ devices.carrier slot = devices.carrier frame.channel :=
      fun same => carried (same.symm.trans alone.carries)
    have elsewhere : (devices.get frame.channel).sink ≠ .file number :=
      fun here => carried ((alone.only frame.channel).mp here)
    simp only [Host.write, FileSystem.write, if_neg carried, List.append_nil]
    cases sink : (devices.get frame.channel).sink with
    | file other =>
      have different : number ≠ other := by
        rintro rfl
        exact elsewhere sink
      refine ⟨_, rfl, carriers _, alone.set _ _ sink.symm, ?_, ?_⟩
      · rw [Devices.get_set, if_neg apart, offset]
      · simp only [FileSystem.content_setContent, if_neg different, content]
    | device device =>
      cases device with
      | null =>
        refine ⟨_, rfl, carriers _, alone.set _ _ sink.symm, ?_, content⟩
        rw [Devices.get_set, if_neg apart, offset]
      | full => exact ⟨devices, rfl, fun _ => rfl, alone, offset, content⟩

/-- A file that one descriptor is alone on begins with what went through it, and behind that it is as
it was. The other devices may be of any kind. -/
theorem Host.Streams.writeAll {host : Host} {devices : Devices Descriptor} {slot : Channel}
    {number : Nat} {stream old : Bytes} (held : host.Streams devices slot number stream old)
    (frames : List Frame) :
    ∃ moved : Devices Descriptor,
      (host.writeAll (.devices devices) frames).host.Streams moved slot number
        (stream ++ devices.stream slot (frames.map Frame.record)) old := by
  induction frames generalizing host devices stream with
  | nil => exact ⟨devices, by simpa [Host.writeAll, Devices.stream] using held⟩
  | cons frame rest inductionHypothesis =>
    obtain ⟨moved, target, carriers, next⟩ := held.write frame
    obtain ⟨last, later⟩ := inductionHypothesis next
    refine ⟨last, ?_⟩
    have joined : devices.stream slot ((frame :: rest).map Frame.record) =
        (if devices.carrier frame.channel = slot then frame.bytes else []) ++
          moved.stream slot (rest.map Frame.record) := by
      simp only [Devices.stream, carriers, List.map_cons, List.filter_cons, Frame.record]
      by_cases carried : devices.carrier frame.channel = slot <;> simp [carried]
    rw [joined, ← List.append_assoc]
    simpa only [Host.writeAll, target] using later

end KernelLog
