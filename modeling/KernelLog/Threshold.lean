import KernelLog.Config
/-!
# Thresholds

Properties say from which priority on a tag's records are worth writing. The property of a tag is
named after it, in at most 31 bytes; the property `log.tag.DEFAULT` serves tags without one. Only
the first byte of a value counts. A value that begins with no known letter means the fallback, and
is not passed over in favour of the default property; an empty value is.
-/
namespace KernelLog
namespace Threshold

/-- What the name of a tag's property begins with. -/
def keyStart : String := "log.tag."

/-- The property that serves tags without one of their own. -/
def defaultKey : String := "log.tag.DEFAULT"

/-- The number of bytes a property name has at most. -/
def longestKey : Nat := 31

/-- The characters that fit into a number of bytes, up to the first that does not. -/
def fitting : (room : Nat) → List Char → List Char
  | _, [] => []
  | room, c :: rest => if c.utf8Size ≤ room then c :: fitting (room - c.utf8Size) rest else []

/-- The name of a tag's property: the tag behind a fixed beginning, as far as it fits. -/
def key (tag : String) : String :=
  keyStart ++ String.ofList (fitting (longestKey - keyStart.utf8ByteSize) tag.toList)

/-- The value of a property, if there is one and it is not empty. -/
def value? (properties : Properties) (name : String) : Option String :=
  (properties.lookup name).filter (!·.isEmpty)

/-- The least priority that a tag's records are worth writing at. -/
def threshold (properties : Properties) (tag : Option String) (fallback : Priority) : Priority :=
  let own := tag.bind fun tag => value? properties (key tag)
  match own <|> value? properties defaultKey with
  | none => fallback
  | some value =>
    match Bytes.ofText value with
    | first :: _ => (Priority.ofPropertyByte? first).getD fallback
    | [] => fallback

/-- Whether records of a priority are worth writing for a tag. -/
def isLoggable (properties : Properties) (priority : Priority) (tag : Option String)
    (fallback : Priority) : Bool :=
  threshold properties tag fallback ≤ priority

end Threshold

/-- Whether records of a priority are worth writing for a tag under a configuration. -/
def Config.isLoggable (config : Config) (priority : Priority) (tag : Option String) : Bool :=
  Threshold.isLoggable config.properties priority tag config.fallback

end KernelLog
