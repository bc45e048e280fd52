import KernelLog.Proofs.LineEdits
import KernelLog.Proofs.SubmittedRecords

/-!
# Records whose parts have to end in a NUL

Two scans look for the first NUL of a byte string: one stops before it, to judge a
tag, and the other behind it, to transmit it. They stop at the same NUL, and each
finds what it has found before when it is applied again.

A text record relies on that. Its parts have to end in a NUL, and its fields are the
parts without their last byte. `Frame.ofRoute?` and what is built on it make records
as the calls do, but give nothing where a part ends otherwise; `TextRecord.tag?` and
`TextRecord.message?` give nothing where there is no last byte. It never comes to that.
-/

namespace KernelLog

open Bytes Routing

/-! ## Parts that are checked -/

namespace TextRecord

/-- The record of two parts, if both end in a NUL. -/
def ofParts? (priority : Priority) (tag message : Bytes) : Option TextRecord :=
  if tag.getLast? = some 0 ∧ message.getLast? = some 0 then
    some { priority := priority, terminatedTag := tag, terminatedMessage := message }
  else none

/-- A part without its last byte, if it has one. -/
def unterminated? (part : Bytes) : Option Bytes :=
  if part.length < 1 then none else part.slice? 0 (part.length - 1)

/-- The tag without its last byte, if it has one. -/
def tag? (record : TextRecord) : Option Bytes :=
  unterminated? record.terminatedTag

/-- The message without its last byte, if it has one. -/
def message? (record : TextRecord) : Option Bytes :=
  unterminated? record.terminatedMessage

end TextRecord

namespace Frame

/-- The frame of a text record on a route, if both parts of the record end in a NUL. -/
def ofRoute? (route : Route) (priority : Priority) (message : Bytes) : Option Frame := do
  let record ← TextRecord.ofParts? priority route.tag message
  pure { channel := route.channel, segments := record.segments }

/-- The frame of a message in a line, if both parts of its record end in a NUL. -/
def ofLine? (channel : Option Channel) (priority : Priority) (tag : String) (line : Line) :
    Option Frame :=
  let route :=
    match channel with
    | some channel => Route.explicit channel (Bytes.ofText tag)
    | none => Route.byDefault (Bytes.ofText tag)
  ofRoute? route priority (Bytes.nulTerminated line.bytesWithNul)

end Frame

/-- The frame that a call amounts to. If it is a text, both parts of its record have to end in a
NUL. -/
def Call.frame? : Call → Option Frame
  | write priority tag message =>
    Frame.ofRoute? (Route.byDefault (Bytes.ofText tag)) priority
      (Bytes.nulTerminated (Bytes.ofText message))
  | writeTo channel priority tag message =>
    Frame.ofRoute? (Route.explicit channel (Bytes.ofText tag)) priority
      (Bytes.nulTerminated (Bytes.ofText message))
  | print priority tag message => Frame.ofLine? none priority tag (Line.format message)
  | printTo channel priority tag message =>
    Frame.ofLine? (some channel) priority tag (Line.format message)
  | event tag payload => some (Call.event tag payload).frame
  | typedEvent tag typeByte payload => some (Call.typedEvent tag typeByte payload).frame
  | eventInt tag value => some (Call.eventInt tag value).frame
  | eventLong tag value => some (Call.eventLong tag value).frame

/-! ## One NUL for both scans -/

namespace Bytes

/-- A NUL was there already exactly if none had to be added. -/
theorem added_iff (bytes : Bytes) : (terminate bytes).added = false ↔ 0 ∈ bytes := by
  rw [terminate]
  cases found : bytes.findIdx? (· == 0) with
  | none =>
    have free : 0 ∉ bytes := by
      rw [List.findIdx?_eq_none_iff] at found
      intro member
      simpa using found 0 member
    simp [free]
  | some position =>
    obtain ⟨within, isNul, _⟩ := List.findIdx?_eq_some_iff_getElem.mp found
    have member : bytes[position] ∈ bytes := List.getElem_mem within
    rw [beq_iff_eq.mp isNul] at member
    simp [member]

/-- The terminated form is then a leading part of what it was made from. -/
theorem terminated_prefix (bytes : Bytes) (kept : (terminate bytes).added = false) :
    nulTerminated bytes <+: bytes := by
  rw [nulTerminated]
  rw [terminate] at kept ⊢
  cases found : bytes.findIdx? (· == 0) with
  | none => simp [found] at kept
  | some position => exact List.take_prefix _ _

/-- The terminated form ends in a NUL. -/
theorem terminated_ends (bytes : Bytes) : (nulTerminated bytes).getLast? = some 0 := by
  rw [terminated_eq, List.getLast?_concat]

/-- It holds no other. -/
theorem count_terminated (bytes : Bytes) : (nulTerminated bytes).count 0 = 1 := by
  rw [terminated_eq, List.count_append, List.count_eq_zero.mpr (nul_not_mem_cut bytes)]
  rfl

/-- What stands before the first NUL has the same terminated form as the whole. -/
theorem terminated_cut (bytes : Bytes) : nulTerminated (cutAtNul bytes) = nulTerminated bytes := by
  rw [terminated_eq, terminated_eq, cut_idempotent]

/-- The same stands before the NUL of the terminated form. -/
theorem cut_terminated (bytes : Bytes) : cutAtNul (nulTerminated bytes) = cutAtNul bytes := by
  rw [terminated_eq, cut_append_nul, cut_idempotent]

end Bytes

/-- The tag on a route is in its terminated form, whether it was rewritten or not. -/
theorem Route.terminated_choose (rules : RuleSet) (channel : Channel) (tag : Bytes) :
    nulTerminated (choose rules channel tag).tag = (choose rules channel tag).tag := by
  by_cases moves : Moves rules channel tag
  · rw [choose_of_moves moves, terminated_rewriteTag]
  · rw [choose_of_stays moves, terminated_idempotent]

/-- The route of a record hangs on the visible part of its tag alone. -/
theorem Route.choose_cut (rules : RuleSet) (channel : Channel) (tag : Bytes) :
    choose rules channel (cutAtNul tag) = choose rules channel tag := by
  simp only [choose, radio_tag_cut, rewriteTag, cut_idempotent, terminated_cut]

/-! ## No check fails -/

namespace TextRecord

/-- A part that ends in a NUL is that NUL behind the part without its last byte. -/
theorem unterminated_of_ends {part : Bytes} (ends : part.getLast? = some 0) :
    unterminated? part = some part.dropLast ∧ part = part.dropLast ++ [0] := by
  obtain ⟨field, rfl⟩ := List.getLast?_eq_some_iff.mp ends
  have filled : ¬ (field ++ [0]).length < 1 := by
    rw [List.length_append, List.length_singleton]
    omega
  have leading := slice?_leading (field ++ [0]) _ (Nat.sub_le _ 1)
  rw [← List.dropLast_eq_take] at leading
  exact ⟨(if_neg filled).trans leading, by rw [List.dropLast_concat]⟩

/-- The fields of a record whose parts were checked are there, and the parts are these with their
NUL. -/
theorem fields_of_checked {priority : Priority} {tag message : Bytes} {record : TextRecord}
    (made : ofParts? priority tag message = some record) :
    (record.tag? = some record.tag ∧ tag = record.tag ++ [0]) ∧
      record.message? = some record.message ∧ message = record.message ++ [0] := by
  rw [ofParts?] at made
  split at made
  · rename_i ends
    obtain rfl := Option.some.inj made
    exact ⟨unterminated_of_ends ends.1, unterminated_of_ends ends.2⟩
  · cases made

/-- Terminated forms are the parts of a record. -/
theorem ofParts_terminated (priority : Priority) (tag message : Bytes) :
    ofParts? priority (nulTerminated tag) (nulTerminated message) =
      some (make priority tag message) :=
  if_pos ⟨terminated_ends tag, terminated_ends message⟩

end TextRecord

namespace Frame

/-- The parts of a record on a route that was chosen by any rules end in a NUL. -/
theorem ofRoute_checked (rules : RuleSet) (channel : Channel) (tag : Bytes) (priority : Priority)
    (message : Bytes) :
    let route := Route.choose rules channel tag
    ofRoute? route priority (nulTerminated message) =
      some (ofRoute route priority (nulTerminated message)) := by
  intro route
  have ended : nulTerminated route.tag = route.tag := Route.terminated_choose rules channel tag
  have made := TextRecord.ofParts_terminated priority route.tag message
  rw [ended] at made
  simp only [ofRoute?, made, Option.bind_eq_bind, Option.bind_some, Option.pure_def, ofRoute,
    TextRecord.make, ended]

/-- So do those of a message in a line, whatever the line holds. -/
theorem ofLine_checked (channel : Option Channel) (priority : Priority) (tag : String)
    (line : Line) :
    ofLine? channel priority tag line = some (ofLine channel priority tag line) := by
  cases channel with
  | none => exact ofRoute_checked .defaultChannel .main _ priority line.bytesWithNul
  | some channel => exact ofRoute_checked .explicitChannel channel _ priority line.bytesWithNul

end Frame

/-- No call fails a check on its record. -/
theorem Call.frame_checked (call : Call) : call.frame? = some call.frame := by
  cases call with
  | write priority tag message =>
    exact Frame.ofRoute_checked .defaultChannel .main _ priority (Bytes.ofText message)
  | writeTo channel priority tag message =>
    exact Frame.ofRoute_checked .explicitChannel channel _ priority (Bytes.ofText message)
  | print priority tag message => exact Frame.ofLine_checked none priority tag _
  | printTo channel priority tag message => exact Frame.ofLine_checked (some channel) priority tag _
  | event _ _ | typedEvent _ _ _ | eventInt _ _ | eventLong _ _ => rfl

/-- What a line transmits begins the line, and stands before the first NUL of the bytes in use. -/
theorem Line.Holds.terminated {line : Line} {presented : Bytes} (holds : line.Holds presented) :
    (terminate line.bytesWithNul).added = false ∧
      nulTerminated line.bytesWithNul = cutAtNul line.bytes ++ [0] := by
  have ended : line.bytesWithNul = line.bytes ++ [0] := by rw [holds.bytesWithNul, holds.bytes]
  rw [added_iff, terminated_eq, ended, cut_append_nul]
  exact ⟨List.mem_append_right _ (List.mem_singleton_self 0), rfl⟩

/-- The two scans find one NUL, and every record relies on it.

The terminated form of a byte string is what stands before its first NUL, and one NUL, which is the
only one. It is a leading part of the string exactly if that holds a NUL. Either scan finds the same
again in what either has found.

So a tag leads where its visible part does, and that part is what is transmitted of it unless it is
rewritten. Wherever a record is made, by a call, of a message in a line, or of a tag and a message
as they are, its parts end in a NUL; a line that was written in any way has its NUL in itself. And
of a record whose parts end in a NUL, each field is there: it is the part but for its last byte. -/
theorem both_scans_find_one_nul :
    (∀ bytes : Bytes,
      let visible := cutAtNul bytes
      let ended := nulTerminated bytes
      (ended = visible ++ [0] ∧ ended.count 0 = 1 ∧ ended ≠ []) ∧
      ((terminate bytes).added = false ↔ 0 ∈ bytes) ∧
      ((terminate bytes).added = false → ended <+: bytes) ∧
      nulTerminated ended = ended ∧ nulTerminated visible = ended ∧
      cutAtNul ended = visible ∧ cutAtNul visible = visible) ∧
    (∀ rules channel tag,
      let route := Route.choose rules channel tag
      Route.choose rules channel (cutAtNul tag) = route ∧
      (¬ Route.Moves rules channel tag → ∀ priority message record,
        TextRecord.ofParts? priority route.tag message = some record →
          record.tag? = some (cutAtNul tag))) ∧
    (∀ call : Call, call.frame? = some call.frame) ∧
    (∀ channel priority tag line,
      Frame.ofLine? channel priority tag line = some (Frame.ofLine channel priority tag line)) ∧
    (∀ priority tag message,
      TextRecord.ofParts? priority (nulTerminated tag) (nulTerminated message) =
        some (TextRecord.make priority tag message)) ∧
    (∀ edits,
      let line := Line.empty.editAll edits
      (terminate line.bytesWithNul).added = false ∧
        nulTerminated line.bytesWithNul = cutAtNul line.bytes ++ [0]) ∧
    ∀ priority tag message record,
      TextRecord.ofParts? priority tag message = some record →
        (record.tag? = some record.tag ∧ tag = record.tag ++ [0]) ∧
          record.message? = some record.message ∧ message = record.message ++ [0] := by
  refine ⟨fun bytes => ?_, fun rules channel tag => ?_, Call.frame_checked, Frame.ofLine_checked,
    TextRecord.ofParts_terminated, fun edits => ?_, fun priority tag message record made =>
      TextRecord.fields_of_checked made⟩
  · intro visible ended
    have shape : ended = visible ++ [0] := terminated_eq bytes
    refine ⟨⟨shape, count_terminated bytes, ?_⟩, added_iff bytes, terminated_prefix bytes,
      terminated_idempotent bytes, terminated_cut bytes, cut_terminated bytes,
      cut_idempotent bytes⟩
    rw [shape]
    exact List.concat_ne_nil 0 visible
  · intro route
    refine ⟨Route.choose_cut rules channel tag, fun stays priority message record made => ?_⟩
    obtain ⟨⟨there, whole⟩, _⟩ := TextRecord.fields_of_checked made
    have own : route.tag = cutAtNul tag ++ [0] := by
      rw [← terminated_eq]
      exact congrArg Route.tag (Route.choose_of_stays stays)
    rw [there, List.append_cancel_right (whole.symm.trans own)]
  · exact (Line.editAll_holds Line.empty edits [] Line.empty_holds).terminated

/-- A telephony tag with more behind a NUL, for radio: it is not rewritten, and what is transmitted
of it is what was judged. The message fills its line within a character, and the NUL of its part is
the line's. -/
theorem tag_for_radio_is_sent_as_judged :
    let tag := ofText "RIL\x00x"
    let line := Line.empty.editAll [.push (List.replicate 1022 65), .write [.text "é"]]
    let route := Route.explicit .radio tag
    (¬ Route.Moves .explicitChannel .radio tag ∧ (terminate tag).added = false) ∧
    nulTerminated tag <+: tag ∧ nulTerminated line.bytesWithNul = line.bytes ++ [0] ∧
    ∃ record,
      TextRecord.ofParts? .info route.tag (nulTerminated line.bytesWithNul) = some record ∧
      record.tag? = some (ofText "RIL") ∧ record.message? = some line.bytes := by
  intro tag line route
  obtain ⟨scans, routes, _, _, records, lines, fields⟩ := both_scans_find_one_nul
  have stays : ¬ Route.Moves .explicitChannel .radio tag := fun moves => moves.1 rfl
  have kept : (terminate tag).added = false := by decide
  have begins := (scans tag).2.2.1 kept
  have sent : nulTerminated line.bytesWithNul = line.bytes ++ [0] := by
    have free : cutAtNul line.bytes = line.bytes := by decide +kernel
    rw [(lines _).2, free]
  have made := records .info route.tag line.bytesWithNul
  have ended : nulTerminated route.tag = route.tag := by decide
  rw [ended] at made
  have tagThere := (routes .explicitChannel .radio tag).2 stays _ _ _ made
  obtain ⟨_, messageThere, whole⟩ := fields _ _ _ _ made
  rw [List.append_cancel_right (whole.symm.trans sent)] at messageThere
  exact ⟨⟨stays, kept⟩, begins, sent, _, made, tagThere, messageThere⟩

end KernelLog
