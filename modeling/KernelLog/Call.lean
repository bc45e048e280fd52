import KernelLog.Line
import KernelLog.Record.Event
import KernelLog.Record.Text
import KernelLog.Routing
/-!
# Calls

The entry points that write a record. Each call amounts to one frame: a channel and the parts of one
record. A formatted message goes through a bounded line first; a plain one does not.
-/
namespace KernelLog

/-- One record on its way: the channel it goes to and the parts that are written in one go. -/
structure Frame where
  channel : Channel
  segments : List Bytes
  deriving DecidableEq, Repr

namespace Frame

/-- The bytes of the record. -/
def bytes (frame : Frame) : Bytes :=
  frame.segments.flatten

/-- The number of bytes of the record. -/
def size (frame : Frame) : Nat :=
  frame.segments.foldr (fun segment size => segment.length + size) 0

/-- The frame of a text record on a route, of a message that carries its NUL. -/
def ofRoute (route : Route) (priority : Priority) (message : Bytes) : Frame :=
  let record : TextRecord :=
    { priority := priority, terminatedTag := route.tag, terminatedMessage := message }
  { channel := route.channel, segments := record.segments }

/-- The frame of a message in a line, for a channel or for none in particular. -/
def ofLine (channel : Option Channel) (priority : Priority) (tag : String) (line : Line) : Frame :=
  let route :=
    match channel with
    | some channel => Route.explicit channel (Bytes.ofText tag)
    | none => Route.byDefault (Bytes.ofText tag)
  ofRoute route priority (Bytes.nulTerminated line.bytesWithNul)

/-- The frame of an event. -/
def ofEvent (event : EventRecord) : Frame :=
  { channel := .events, segments := event.segments }

end Frame

/-- A call that writes a record. -/
inductive Call
  /-- A text, on the main channel unless the tag leads elsewhere. -/
  | write (priority : Priority) (tag message : String)
  /-- A text, on a channel of the caller's choice. -/
  | writeTo (channel : Channel) (priority : Priority) (tag message : String)
  /-- A formatted text, on the main channel unless the tag leads elsewhere. -/
  | print (priority : Priority) (tag : String) (message : List Piece)
  /-- A formatted text, on a channel of the caller's choice. -/
  | printTo (channel : Channel) (priority : Priority) (tag : String) (message : List Piece)
  /-- An event without a type byte. -/
  | event (tag : Int32) (payload : Bytes)
  /-- An event with a type byte. -/
  | typedEvent (tag : Int32) (typeByte : UInt8) (payload : Bytes)
  /-- An event that carries a 32-bit integer. -/
  | eventInt (tag value : Int32)
  /-- An event that carries a 64-bit integer. -/
  | eventLong (tag : Int32) (value : Int64)
  deriving DecidableEq

/-- The frame that a call amounts to. -/
def Call.frame : Call → Frame
  | write priority tag message =>
    Frame.ofRoute (Route.byDefault (Bytes.ofText tag)) priority
      (Bytes.nulTerminated (Bytes.ofText message))
  | writeTo channel priority tag message =>
    Frame.ofRoute (Route.explicit channel (Bytes.ofText tag)) priority
      (Bytes.nulTerminated (Bytes.ofText message))
  | print priority tag message => Frame.ofLine none priority tag (Line.format message)
  | printTo channel priority tag message =>
    Frame.ofLine (some channel) priority tag (Line.format message)
  | event tag payload => Frame.ofEvent (EventRecord.untyped tag payload)
  | typedEvent tag typeByte payload => Frame.ofEvent (EventRecord.typed tag typeByte payload)
  | eventInt tag value => Frame.ofEvent (EventRecord.ofInt32 tag value)
  | eventLong tag value => Frame.ofEvent (EventRecord.ofInt64 tag value)

end KernelLog
