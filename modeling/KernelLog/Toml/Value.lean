import KernelLog.Decimal.Binary64
/-!
# Configuration values

The values that a TOML document holds. A document is a list of named values in the order in which
they stand in the text; no name occurs twice.
-/
namespace KernelLog.Toml

/-- A value. A date or time is kept as its normal text. -/
inductive Value
  | string (text : String)
  | integer (number : Int)
  | float (number : Decimal.Binary64)
  | boolean (truth : Bool)
  | datetime (text : String)
  | array (items : List Value)
  | table (entries : List (String × Value))

/-- The top-level entries of a document, in order. -/
abbrev Document := List (String × Value)

end KernelLog.Toml
