import KernelLog.Channel
/-!
# Routing of text records

Telephony components that log through the general entry points are moved to the radio channel, and
their tag is rewritten so that a reader can tell. A tag is judged by its part before the first NUL,
which is also the part that is transmitted.

Two sets of rules differ in three tags that only count as telephony when the caller chose no
channel. A caller who chose the radio channel keeps the tag as it is.
-/
namespace KernelLog

/-- Which rules decide whether a tag belongs to telephony. -/
inductive RuleSet
  /-- The caller chose no channel. -/
  | defaultChannel
  /-- The caller chose a channel. -/
  | explicitChannel
  deriving DecidableEq, Repr

namespace Routing

/-- Tags of telephony components that count under both rule sets. -/
def radioTags : List Bytes :=
  ["HTC_RIL", "AT", "GSM", "STK", "CDMA", "PHONE", "SMS", "KINETO"].map Bytes.ofText

/-- Beginnings of tags of telephony components that count under both rule sets. -/
def radioBeginnings : List Bytes :=
  ["RIL", "IMS", "KIPC", "Kineto", "QCRIL", "QC-RIL", "QC-QMI", "QC-ONCRPC", "QC-DSI"].map
    Bytes.ofText

/-- Tags of telephony components that count only when the caller chose no channel. -/
def defaultOnlyTags : List Bytes :=
  ["QC-NETMGR-LIB", "QC-QDP", "Diag_Lib"].map Bytes.ofText

/-- What a rewritten tag begins with. -/
def rewrittenBeginning : Bytes := Bytes.ofText "use-Rlog/RLOG-"

/-- The number of bytes a rewritten tag has at most, its NUL not counted. -/
def longestRewritten : Nat := 31

/-- Whether a tag belongs to a telephony component. -/
def isRadioTag (rules : RuleSet) (tag : Bytes) : Bool :=
  let tag := Bytes.cutAtNul tag
  radioTags.contains tag || radioBeginnings.any (·.isPrefixOf tag) ||
    (rules == .defaultChannel && defaultOnlyTags.contains tag)

/-- The tag under which a record is moved to the radio channel: a fixed beginning and the tag up to
its first NUL, cut to 31 bytes and ended by a NUL. -/
def rewriteTag (tag : Bytes) : Bytes :=
  (rewrittenBeginning ++ Bytes.cutAtNul tag).take longestRewritten ++ [0]

end Routing

/-- Where a text record goes, and the tag it carries there, its NUL included. -/
structure Route where
  channel : Channel
  tag : Bytes
  deriving DecidableEq, Repr

namespace Route

open Routing

/-- The route of a record for a channel under a rule set: a telephony tag leads to the radio
channel and is rewritten, unless the record is for the radio channel anyway. -/
def choose (rules : RuleSet) (channel : Channel) (tag : Bytes) : Route :=
  if channel ≠ .radio ∧ isRadioTag rules tag then
    { channel := .radio, tag := rewriteTag tag }
  else
    { channel := channel, tag := Bytes.nulTerminated tag }

/-- The route of a record whose caller chose no channel: the main channel, telephony apart. -/
def byDefault (tag : Bytes) : Route :=
  choose .defaultChannel .main tag

/-- The route of a record whose caller chose a channel. -/
def explicit (channel : Channel) (tag : Bytes) : Route :=
  choose .explicitChannel channel tag

/-- Whether the tag on the route reads as a rewritten one. A caller's own tag may read so too. -/
def rerouted (route : Route) : Bool :=
  rewrittenBeginning.isPrefixOf route.tag

end Route
end KernelLog
