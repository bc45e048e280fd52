import KernelLog.Decimal.Shortest
import KernelLog.IoError
import KernelLog.Text.Quoted
import KernelLog.Toml.Value
/-!
# Why a configuration is refused

A configuration can be refused as a document, because its text is malformed or an entry does not
fit, and as a configuration, because a value that fits is not allowed.

What is wrong with a document is worded by the reader of documents, which also shows the place. Its
texts are a parameter here, `DocumentWording`; the verdict on an entry that does not fit is not.
-/
namespace KernelLog

/-- What stands in a document where something else was expected. -/
inductive Found
  | integer (number : Int)
  | float (number : Decimal.Binary64)
  | boolean (truth : Bool)
  | string (text : String)
  | sequence
  | map
  deriving DecidableEq

namespace Found

/-- What a value is found to be. A date is presented as a table. -/
def ofValue : Toml.Value → Found
  | .string text => string text
  | .integer number => integer number
  | .float number => float number
  | .boolean truth => boolean truth
  | .datetime _ => map
  | .array _ => sequence
  | .table _ => map

/-- The description of what was found. -/
def description : Found → String
  | integer number => "integer \x60" ++ toString number ++ "\x60"
  | float number => "floating point \x60" ++ number.text ++ "\x60"
  | boolean truth => "boolean \x60" ++ (if truth then "true" else "false") ++ "\x60"
  | string text => "string " ++ Text.Quoted.string text
  | sequence => "sequence"
  | map => "map"

end Found

/-- What an entry of a document has to be. -/
inductive Expected
  | path
  | character
  | string
  | map
  deriving DecidableEq, Repr

namespace Expected

/-- The description of what was expected. -/
def description : Expected → String
  | path => "path string"
  | character => "a character"
  | string => "a string"
  | map => "a map"

end Expected

/-- Why a text gives no configuration. -/
inductive DocumentError
  /-- The text is not well-formed. -/
  | malformed
  /-- An entry has a name that no field of a configuration has. -/
  | unknownField (name : String)
  /-- An entry is of another type than its field. -/
  | wrongType (found : Found) (expected : Expected)
  /-- A string that has to be one character is none or several. -/
  | notOneCharacter (text : String)
  deriving DecidableEq

/-- The texts of the reader of documents about the document that it was given. -/
structure DocumentWording where
  /-- What it writes about a text that is not well-formed. -/
  malformed : String
  /-- What it writes around the verdict on an entry. -/
  misfit : (verdict : String) → String

/-- The texts of a reader that shows no place. -/
def DocumentWording.bare : DocumentWording where
  malformed := "not well-formed"
  misfit := id

namespace DocumentError

/-- The text of an error. -/
def message (wording : DocumentWording) : DocumentError → String
  | malformed => wording.malformed
  | unknownField name =>
    wording.misfit
      ("unknown field \x60" ++ name ++
        "\x60, expected one of \x60device_dir\x60, \x60fallback_priority\x60, \x60properties\x60")
  | wrongType found expected =>
    wording.misfit
      ("invalid type: " ++ found.description ++ ", expected " ++ expected.description)
  | notOneCharacter text =>
    wording.misfit
      ("invalid value: " ++ (Found.string text).description ++ ", expected " ++
        Expected.character.description)

end DocumentError

/-- Why there is no configuration. -/
inductive ConfigError
  /-- The fallback priority is none of the six letters. -/
  | fallbackPriority (letter : Char)
  | emptyDeviceDir
  /-- The file at a path could not be read. -/
  | unreadable (path : Bytes) (cause : IoError)
  | document (cause : DocumentError)
  deriving DecidableEq

namespace ConfigError

/-- The text of an error. -/
def message (wording : DocumentWording) : ConfigError → String
  | fallbackPriority letter =>
    "fallback_priority must be one of E/W/I/D/V/S, got " ++ Text.Quoted.char letter
  | emptyDeviceDir => "device_dir must not be empty"
  | unreadable path cause => Text.Utf8.decodeLossy path ++ ": " ++ cause.message
  | document cause => cause.message wording

end ConfigError
end KernelLog
