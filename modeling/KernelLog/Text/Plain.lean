/-!
# Text without what steers a terminal

A text that quotes what somebody else wrote may hold control characters and escape sequences, which
steer a terminal and are not seen. `plain` leaves them out. Tabs and line ends stay, for they are
seen as space.

A sequence begins with an escape character, and the characters behind it decide where it ends. One
that is begun and never ended takes the rest of the text with it. Spacing in a sequence that holds
no string is seen, and suspends the sequence: what follows is seen as well, up to the next character
that cannot be, and with that one the sequence goes on. A character beyond ASCII that is seen ends a
suspended sequence.
-/
namespace KernelLog.Text

/-- How far into a sequence a reader of a text is. -/
inductive Steering
  | outside
  /-- Right behind an escape character. -/
  | escape
  /-- Behind an escape character and a character between a space and a slash. -/
  | intermediate
  /-- In the parameters of a control sequence. -/
  | parameters
  /-- In a command to the system around the terminal, which a bell ends. -/
  | command
  /-- At the beginning of a sequence for a device, whose parameters come before a string. -/
  | device
  /-- In the parameters of a sequence for a device. -/
  | deviceParameters
  /-- Behind the parameters of a sequence for a device. -/
  | deviceIntermediate
  /-- In a string. -/
  | string
  deriving DecidableEq, Repr

namespace Steering

/-- Whether a control character is seen as space. -/
def isSpacing (c : Char) : Bool :=
  c == '\t' || c == '\n' || c == '\x0c' || c == '\r'

/-- Whether a character outside of all sequences is seen. -/
def isSeen (c : Char) : Bool :=
  isSpacing c || (' ' ≤ c && c != '\x7f')

/-- Whether a character ends a string: the byte of the string terminator counts wherever it stands
among the bytes of a character. -/
def endsString (c : Char) : Bool :=
  (String.utf8EncodeChar c).contains 0x9C

/-- Where the character right behind an escape character leads. -/
def behindEscape (c : Char) : Steering :=
  if c == '[' then parameters
  else if c == ']' then command
  else if c == 'P' then device
  else if c == 'X' || c == '^' || c == '_' then string
  else if ' ' ≤ c && c ≤ '/' then intermediate
  else if '0' ≤ c && c ≤ '~' then outside
  else escape

/-- Where a character leads in a sequence for a device, before its string has begun. A malformed
sequence is passed over like a string. -/
def withinDevice (steering : Steering) (c : Char) : Steering :=
  if ' ' ≤ c && c ≤ '/' then deviceIntermediate
  else if '0' ≤ c && c ≤ ';' then if steering == deviceIntermediate then string else deviceParameters
  else if '<' ≤ c && c ≤ '?' then if steering == device then deviceParameters else string
  else if '@' ≤ c && c ≤ '~' then string
  else steering

/-- Where a character leads, and whether it is seen. An escape character begins a new sequence
anywhere, and a cancellation ends one. -/
def next (steering : Steering) (c : Char) : Steering × Bool :=
  if c == '\x1b' then (escape, false)
  else if c == '\x18' || c == '\x1a' then (outside, false)
  else
    match steering with
    | outside => (outside, isSeen c)
    | escape => if isSpacing c then (escape, true) else (behindEscape c, false)
    | intermediate =>
      if isSpacing c then (intermediate, true)
      else (if '0' ≤ c && c ≤ '~' then outside else intermediate, false)
    | parameters =>
      if isSpacing c then (parameters, true)
      else (if '@' ≤ c && c ≤ '~' then outside else parameters, false)
    | command => (if c == '\x07' then outside else command, false)
    | device | deviceParameters | deviceIntermediate => (steering.withinDevice c, false)
    | string => (if endsString c then outside else string, false)

/-- The characters that are seen of the rest of a text. Behind one that is seen, a character is
judged as if it stood outside of all sequences, as long as those are seen, too. -/
def seen (steering : Steering) (behindSeen : Bool) : List Char → List Char
  | [] => []
  | c :: rest =>
    if behindSeen && isSeen c then
      c :: (if c ≤ '\x7f' then steering else outside).seen true rest
    else
      let (after, isVisible) := steering.next c
      if isVisible then c :: after.seen true rest else after.seen false rest

end Steering

/-- What is seen of a text. -/
def plain (text : String) : String :=
  String.ofList (Steering.outside.seen false text.toList)

/-- What is seen of a text in parts that are set off from each other by their weight. A change of
weight is a sequence of its own, so none that is begun in one part goes on in the next. -/
def plainParts (parts : List String) : String :=
  String.join (parts.map plain)

end KernelLog.Text
