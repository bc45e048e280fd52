import KernelLog.Proofs.MemoryRefinement
import KernelLog.Proofs.RecordStreams

/-!
# What a channel holds

A memory that one logger alone writes to holds the records that its calls and its
bridges were asked for, in their order and nothing besides. `World.origins` tells
where each of them comes from: a text, the channel that was named for it and the tag
that its caller gave, or an event.

So what a channel holds follows from what a single record may do. Events stay on
their channel. A text shows a telephony tag on radio alone, where it is either as
its caller gave it, who named radio, or rewritten.
-/

namespace KernelLog

open Bytes Routing

/-! ## Where a record comes from -/

/-- The rules that judge the tag of a text, by the channel that was named for it, if one was. -/
def RuleSet.ofRequest : Option Channel → RuleSet
  | none => .defaultChannel
  | some _ => .explicitChannel

/-- What a record is made from: a text, with the channel that its caller named, or an event. -/
inductive Origin
  | text (requested : Option Channel) (entry : TextRecord.Entry)
  | event (record : EventRecord)
  deriving DecidableEq

/-- The frame of an origin. -/
def Origin.frame : Origin → Frame
  | text requested entry => Frame.ofText requested entry.priority entry.tag entry.message
  | event record => Frame.ofEvent record

/-- The text in a line. Its message is what the line holds, up to the terminator. -/
def Origin.ofLine (requested : Option Channel) (priority : Priority) (tag : String) (line : Line) :
    Origin :=
  .text requested { priority := priority, tag := Bytes.ofText tag, message := line.bytesWithNul }

/-- What a call makes a record from. -/
def Call.origin : Call → Origin
  | write priority tag message =>
    .text none { priority := priority, tag := Bytes.ofText tag, message := Bytes.ofText message }
  | writeTo channel priority tag message =>
    .text (some channel)
      { priority := priority, tag := Bytes.ofText tag, message := Bytes.ofText message }
  | print priority tag message => Origin.ofLine none priority tag (Line.format message)
  | printTo channel priority tag message =>
    Origin.ofLine (some channel) priority tag (Line.format message)
  | event tag payload => .event (EventRecord.untyped tag payload)
  | typedEvent tag typeByte payload => .event (EventRecord.typed tag typeByte payload)
  | eventInt tag value => .event (EventRecord.ofInt32 tag value)
  | eventLong tag value => .event (EventRecord.ofInt64 tag value)

/-- What an operation makes a record from, if it writes one. A failed assertion does. -/
def Operation.origin? : Operation → Option Origin
  | send call => some call.origin
  | failAssertion condition tag message =>
    some (Origin.ofLine none .fatal tag (Line.ofAssertion condition message))
  | isInitialized | isAvailable | isMainWritable | isLoggable _ _ | config | describe => none

/-- What a bridge makes a record from. It drops a message that it is not enabled for. -/
def Bridge.origin? (bridge : Bridge) (message : Message) : Option Origin :=
  if bridge.enabled message.level message.target then
    some (Origin.ofLine bridge.channel (Priority.ofLevel message.level)
      (bridge.tagFor message.target) (Line.format message.pieces))
  else none

/-- What a record is made from when a message is handed to the facade. -/
def Facade.origin? (facade : Facade) (message : Message) : Option Origin :=
  if facade.maxLevel.admits message.level then
    match facade.backend with
    | .bridge bridge => bridge.origin? message
    | .absent | .collector => none
  else none

/-- What a step makes a record from, if it makes a logger write one. -/
def Step.origin? (world : World) : Step → Option Origin
  | operate _ operation => operation.origin?
  | bridgeMessage bridge message => bridge.origin? message
  | log message => world.facade.origin? message
  | create _ _ | assert _ _ _ _ | change _ _ | makeBridge _ _ _ _ | install _ _ _ _
  | deposit _ _ | clear _ => none

/-- What the steps of a run make records from, as far as the run gets. -/
def World.origins : List Step → World → List Origin
  | [], _ => []
  | first :: rest, world =>
    (first.origin? world).toList ++
      match world.step first with
      | .aborted _ => []
      | .answered _ after => origins rest after

/-- Steps that use no logger but the given one: operations on it, bridges to it and messages for
them, the facade, and changes of files. -/
def Step.IsOn (id : Nat) : Step → Prop
  | operate on _ | makeBridge on _ _ _ | install on _ _ _ => on = .numbered id
  | bridgeMessage bridge _ => bridge.logger = id
  | log _ | change _ _ => True
  | create _ _ | assert _ _ _ _ | deposit _ _ | clear _ => False

/-! ## A memory keeps what its logger was asked for -/

/-- A text in a line leads to the frame of the line. -/
theorem Origin.frame_ofLine (requested : Option Channel) (priority : Priority) (tag : String)
    (line : Line) : (Origin.ofLine requested priority tag line).frame =
      Frame.ofLine requested priority tag line := by
  cases requested with
  | none => exact (ofRoute_byDefault priority _ _).symm
  | some channel => exact (ofRoute_explicit channel priority _ _).symm

/-- What a call makes a record from leads to its frame. -/
theorem Call.frame_origin (call : Call) : call.origin.frame = call.frame := by
  cases call with
  | write priority tag message => exact (ofRoute_byDefault priority _ _).symm
  | writeTo channel priority tag message => exact (ofRoute_explicit channel priority _ _).symm
  | print priority tag message => exact Origin.frame_ofLine none priority tag _
  | printTo channel priority tag message => exact Origin.frame_ofLine (some channel) priority tag _
  | event tag payload => rfl
  | typedEvent tag typeByte payload => rfl
  | eventInt tag value => rfl
  | eventLong tag value => rfl

namespace World

/-- A logger on a memory that holds some records, and a facade that leads to no other logger. -/
structure Remembers (id number : Nat) (records : List (Channel × Bytes)) (world : World) :
    Prop where
  bound : (world.loggers id).dispatch = .chosen (.memory number)
  kept : world.host.memories number = records
  own : ∀ bridge, world.facade.backend = .bridge bridge → bridge.logger = id

/-- Records of some origins behind those that a memory holds already. -/
def remembered (records : List (Channel × Bytes)) (origins : List Origin) :
    List (Channel × Bytes) :=
  records ++ origins.map fun origin => origin.frame.record

/-- Of no origin there is no record. -/
@[simp] theorem remembered_nil (records : List (Channel × Bytes)) :
    remembered records [] = records :=
  List.append_nil records

section Steps

variable {id number : Nat} {records : List (Channel × Bytes)} {world : World}

/-- A frame that is sent on the logger stands behind what its memory held. -/
theorem Remembers.send (held : world.Remembers id number records) (emit : Emit) (origin : Origin) :
    (world.send emit id origin.frame).2.Remembers id number (remembered records [origin]) := by
  rw [send_of_chosen world id _ emit _ held.bound]
  refine ⟨?_, ?_, held.own⟩
  · simp only [boundTo_logger, Host.write, Logger.withDispatch]
  · simp only [boundTo_host, Host.write, Numbered.set_same, held.kept]
    rfl

/-- A message for a bridge to the logger leads to the record of its origin, if it has one. -/
theorem Remembers.forward (held : world.Remembers id number records) (emit : Emit)
    (bridge : Bridge) (message : Message) (leads : bridge.logger = id) :
    (world.forward emit bridge message).Remembers id number
      (remembered records (bridge.origin? message).toList) := by
  simp only [World.forward, Bridge.origin?]
  split
  · rw [leads, Bridge.frame, ← Origin.frame_ofLine]
    exact held.send emit _
  · simpa only [Option.toList_none, remembered_nil] using held

/-- A message for the facade leads to the record of its origin, if it has one. -/
theorem Remembers.log (held : world.Remembers id number records) (depth : Nat)
    (message : Message) :
    (World.log (depth + 1) message world).Remembers id number
      (remembered records (world.facade.origin? message).toList) := by
  simp only [World.log, Facade.origin?]
  by_cases admitted : world.facade.maxLevel.admits message.level = true
  · simp only [admitted, ↓reduceIte]
    cases backend : world.facade.backend with
    | absent => simpa only [Option.toList_none, remembered_nil] using held
    | collector =>
      simp only [Option.toList_none, remembered_nil]
      refine ⟨held.bound, held.kept, ?_⟩
      intro bridge other
      cases other
    | bridge bridge => exact held.forward (World.log depth) bridge message (held.own bridge backend)
  · simpa only [admitted, Bool.false_eq_true, ↓reduceIte, Option.toList_none, remembered_nil]
      using held

/-- An operation on the logger leads to the record of its origin, if it has one. -/
theorem Remembers.operate (held : world.Remembers id number records) (operation : Operation) :
    (world.operate id operation).world.Remembers id number
      (remembered records operation.origin?.toList) := by
  cases operation with
  | send call =>
    have sent := held.send emit call.origin
    rw [Call.frame_origin] at sent
    exact sent
  | failAssertion condition tag message =>
    have sent := held.send emit (Origin.ofLine none .fatal tag (Line.ofAssertion condition message))
    rw [Origin.frame_ofLine] at sent
    exact sent
  | isAvailable =>
    have asked : (world.operate id .isAvailable).world = world := by
      simp only [World.operate, World.isAvailable, obtain_of_chosen world id _ emit held.bound,
        held.bound, Outcome.world]
    simpa only [asked, Operation.origin?, Option.toList_none, remembered_nil] using held
  | isMainWritable =>
    have asked := isMainWritable_keeps id world
    have sameFacade : (world.isMainWritable id).2.facade = world.facade := by
      simp only [World.isMainWritable]
      split <;> rfl
    have sameKept := congrArg (fun host => host.memories number) asked.2.2.2
    simp only [Operation.origin?, Option.toList_none, remembered_nil]
    refine ⟨asked.2.1.trans held.bound, sameKept.trans held.kept, fun bridge same => ?_⟩
    refine held.own bridge ?_
    rw [← sameFacade]
    exact same
  | isInitialized | isLoggable _ _ | config | describe =>
    simpa only [World.operate, Outcome.world, Operation.origin?, Option.toList_none,
      remembered_nil] using held

/-- A bridge to the logger that is made and installed leaves the memory as it is. -/
theorem Remembers.install (held : world.Remembers id number records) (bridge : Bridge)
    (leads : bridge.logger = id) : (world.install bridge).2.Remembers id number records := by
  rw [World.install]
  by_cases absent : world.facade.backend = .absent
  · rw [Facade.install_absent _ _ absent]
    refine ⟨held.bound, held.kept, fun other same => ?_⟩
    rw [← Backend.bridge.inj same]
    exact leads
  · rw [Facade.install_taken _ _ absent]
    exact held

/-- A step on the logger leads to the record of its origin, if it has one, and to no other. -/
theorem Remembers.step (held : world.Remembers id number records) (step : Step)
    (on : step.IsOn id) :
    (world.step step).world.Remembers id number
      (remembered records (step.origin? world).toList) := by
  have quiet : world.Remembers id number (remembered records []) := by
    simpa only [remembered_nil] using held
  cases step with
  | operate other operation =>
    cases on
    exact held.operate operation
  | change place changed => exact ⟨quiet.bound, quiet.kept, quiet.own⟩
  | makeBridge other tagMode channel filter =>
    cases on
    exact quiet
  | bridgeMessage bridge message => exact held.forward emit bridge message on
  | install other tagMode channel filter =>
    cases on
    exact quiet.install _ rfl
  | log message => exact held.log 1 message
  | create _ _ | assert _ _ _ _ | deposit _ _ | clear _ => exact on.elim

/-- Steps on the logger lead to the records of their origins, in their order, whether or not a
failed assertion ends the run. -/
theorem Remembers.run (held : world.Remembers id number records) (steps : List Step)
    (on : ∀ step ∈ steps, step.IsOn id) :
    (run steps world).world.Remembers id number (remembered records (origins steps world)) := by
  induction steps generalizing world records with
  | nil => simpa only [World.run, origins, remembered_nil] using held
  | cons first rest inductionHypothesis =>
    rw [List.forall_mem_cons] at on
    have next := held.step first on.1
    simp only [World.run, origins]
    cases taken : world.step first with
    | aborted last =>
      rw [taken] at next
      simpa only [Outcome.world, List.append_nil] using next
    | answered answer after =>
      rw [taken] at next
      have later := inductionHypothesis next on.2
      simpa only [Outcome.world, remembered, List.map_append, List.append_assoc] using later

end Steps

end World

/-! ## What a record shows -/

/-- A frame shows a text with a given tag: a reader finds the text in it, and unless the frame is on
radio, the tag is none of telephony's, not even one of those that count without a named channel if
none was named and the frame is on main. On radio the tag is the caller's, who named radio, or it is
a rewritten one that the rules for the caller matched. -/
structure Frame.Shows (frame : Frame) (requested : Option Channel) (entry : TextRecord.Entry)
    (tag : Bytes) : Prop where
  readable : TextRecord.read? frame.bytes =
    some (⟨entry.priority.toByte, tag, cutAtNul entry.message⟩, [])
  not_explicit : frame.channel ≠ .radio → isRadioTag .explicitChannel tag = false
  not_default : requested = none → frame.channel = .main → isRadioTag .defaultChannel tag = false
  on_radio : frame.channel = .radio →
    (requested = some .radio ∧ tag = cutAtNul entry.tag) ∨
      (requested ≠ some .radio ∧ rewrittenBeginning <+: tag ∧ tag.length ≤ 31 ∧
        isRadioTag (RuleSet.ofRequest requested) entry.tag = true)

/-- A text whose two fields hold no NUL is read back from its parts. -/
theorem read_parts (priority : Priority) (tag message : Bytes) (tagFree : 0 ∉ tag)
    (messageFree : 0 ∉ message) :
    TextRecord.read? [[priority.toByte], tag ++ [0], message ++ [0]].flatten =
      some (⟨priority.toByte, tag, message⟩, []) := by
  refine (TextRecord.read_iff _ _ _).mpr ⟨⟨tagFree, messageFree⟩, ?_⟩
  simp [TextRecord.Reading.bytes]

/-- Every text shows a tag as the rules have it.

Where the rules for its caller match, the tag is rewritten and the frame on radio; where they do not,
or radio was named, the tag is the caller's up to its first NUL, and judging it once more leads to
the same. -/
theorem Origin.shows_text (requested : Option Channel) (entry : TextRecord.Entry) :
    ∃ tag, (Origin.text requested entry).frame.Shows requested entry tag := by
  have messageFree := nul_not_mem_cut entry.message
  have rules : (if requested = none then RuleSet.defaultChannel else RuleSet.explicitChannel) =
      RuleSet.ofRequest requested := by
    cases requested <;> rfl
  simp only [Origin.frame, Frame.ofText, rules, radio_tag_cut]
  split
  · rename_i moved
    have named : requested ≠ some .radio := by
      rintro rfl
      exact moved.1 rfl
    refine ⟨(rewrittenBeginning ++ cutAtNul entry.tag).take 31, ?_, ?_, ?_, ?_⟩
    · exact read_parts entry.priority _ _ (rewritten_free entry.tag) messageFree
    · exact fun elsewhere => (elsewhere rfl).elim
    · intro _ onMain
      cases onMain
    · intro _
      exact .inr ⟨named, beginning_of_rewritten entry.tag, List.length_take_le _ _, moved.2⟩
  · rename_i stays
    have ordinary : requested.getD .main ≠ .radio →
        isRadioTag (RuleSet.ofRequest requested) (cutAtNul entry.tag) = false := by
      intro elsewhere
      rw [radio_tag_cut]
      exact Bool.eq_false_iff.mpr fun matched => stays ⟨elsewhere, matched⟩
    refine ⟨cutAtNul entry.tag, ?_, ?_, ?_, ?_⟩
    · exact read_parts entry.priority _ _ (nul_not_mem_cut entry.tag) messageFree
    · exact fun elsewhere => ordinary_when_named _ _ (ordinary elsewhere)
    · rintro rfl _
      exact ordinary (by decide)
    · intro onRadio
      refine .inl ⟨?_, rfl⟩
      cases requested with
      | none => cases onRadio
      | some channel => exact congrArg some onRadio

open World

/-- A channel holds what belongs there, after any run on one logger over a memory that was empty.

The memory holds one record for each text or event that a step of the run asked for, in their order
and nothing besides, and `framesOf` shows those of one channel. Events are on the events channel.
What stands on another channel reads as a text, and whatever the channel, a text shows a tag as
`Frame.Shows` has it, judged by who named which channel for which tag. -/
theorem channels_hold_what_belongs_there (world : World) (id number : Nat) (steps : List Step)
    (bound : (world.loggers id).dispatch = .chosen (.memory number))
    (empty : world.host.memories number = [])
    (own : ∀ bridge, world.facade.backend = .bridge bridge → bridge.logger = id)
    (on : ∀ step ∈ steps, step.IsOn id) :
    let after := (run steps world).world
    let origins := World.origins steps world
    after.host.memories number =
        origins.map (fun origin => (origin.frame.channel, origin.frame.bytes)) ∧
      (∀ channel, channel ≠ .events → ∀ bytes ∈ after.host.framesOf number channel,
        ∃ reading, TextRecord.read? bytes = some (reading, []) ∧
          (Priority.ofByte? reading.priorityByte).isSome = true ∧
          (channel ≠ .radio → isRadioTag .explicitChannel reading.tag = false)) ∧
      (∀ record, .event record ∈ origins → (Origin.event record).frame.channel = .events) ∧
      ∀ requested entry, .text requested entry ∈ origins →
        ∃ tag, (Origin.text requested entry).frame.Shows requested entry tag := by
  intro after origins
  have held : world.Remembers id number [] := ⟨bound, empty, own⟩
  have kept : after.host.memories number =
      origins.map fun origin => (origin.frame.channel, origin.frame.bytes) :=
    (held.run steps on).kept
  refine ⟨kept, ?_, fun _ _ => rfl, fun requested entry _ => Origin.shows_text requested entry⟩
  intro channel elsewhere bytes member
  simp only [Host.framesOf, kept, List.mem_map, List.mem_filter, beq_iff_eq] at member
  obtain ⟨_, ⟨⟨origin, _, rfl⟩, here⟩, rfl⟩ := member
  cases origin with
  | event record => exact (elsewhere here.symm).elim
  | text requested entry =>
    obtain ⟨tag, shows⟩ := Origin.shows_text requested entry
    refine ⟨_, shows.readable, ?_, fun notRadio => shows.not_explicit ?_⟩
    · rw [Priority.of_byte_to_byte]
      rfl
    · exact fun onRadio => notRadio (here.symm.trans onRadio)

/-- A long tag stays whole on radio for a caller who names radio, and so does one that was rewritten
before. The same tag for the events channel is moved to radio, and so is one of those that count
only without a named channel, which the events channel takes beside an event. A failed assertion
writes the last record, and no step after it. -/
theorem named_radio_keeps_what_others_have_rewritten :
    let long := "RIL-with-a-really-long-component-name"
    let world := ((World.start FileSystem.initial ⟨none, none⟩ .bare .bare).create Config.default
      .memory).2
    let steps : List Step :=
      [.operate (.numbered 0) (.send (.writeTo .radio .info long "1")),
        .operate (.numbered 0) (.send (.printTo .events .info (long ++ "\x00") [.text "2"])),
        .install (.numbered 0) (.fixed "Diag_Lib\x00x") none (.upTo .info),
        .log ⟨.info, "app", [.text "3"]⟩,
        .operate (.numbered 0) (.send (.writeTo .events .info "Diag_Lib" "4")),
        .bridgeMessage { logger := 0, channel := some .radio } ⟨.warn, "use-Rlog/RLOG-AT", []⟩,
        .operate (.numbered 0) (.send (.event 1 [])),
        .operate (.numbered 0) (.failAssertion (some "x") "t" none),
        .operate (.numbered 0) (.send (.write .info "t" "6"))]
    let after := (World.run steps world).world
    ((world.loggers 0).dispatch = .chosen (.memory 0) ∧ world.host.memories 0 = [] ∧
      (∀ bridge, world.facade.backend = .bridge bridge → bridge.logger = 0) ∧
      ∀ step ∈ steps, step.IsOn 0) ∧
    after.host.framesOf 0 .radio =
      [[4] ++ Bytes.ofText (long ++ "\x001\x00"),
        [4] ++ Bytes.ofText "use-Rlog/RLOG-RIL-with-a-really\x002\x00",
        [4] ++ Bytes.ofText "use-Rlog/RLOG-Diag_Lib\x003\x00",
        [5] ++ Bytes.ofText "use-Rlog/RLOG-AT\x00\x00"] ∧
    after.host.framesOf 0 .events = [[4] ++ Bytes.ofText "Diag_Lib\x004\x00", [1, 0, 0, 0]] ∧
    after.host.framesOf 0 .main = [[7] ++ Bytes.ofText "t\x00Assertion failed: x\x00"] := by
  intro long world steps after
  have own : ∀ bridge, world.facade.backend = .bridge bridge → bridge.logger = 0 := nofun
  have on : ∀ step ∈ steps, step.IsOn 0 := by
    simp only [steps, List.forall_mem_cons, Step.IsOn, List.not_mem_nil, false_implies,
      implies_true, and_self]
  have held := (channels_hold_what_belongs_there world 0 0 steps rfl rfl own on).1
  refine ⟨⟨rfl, rfl, own, on⟩, ?_, ?_, ?_⟩ <;>
    (simp only [Host.framesOf, after, held]; decide +kernel)

end KernelLog
