import KernelLog.Text.Utf8
import KernelLog.Text.GraphemeExtend
import KernelLog.Text.Printable
/-!
# Quoted text

A character or a string is shown between quotes so that its reader can tell what it is made of: the
quote itself, the backslash and four controls are written with a backslash, and every character that
cannot be seen on its own by its code point. Single quotes stand around a character and double ones
around a string; each is escaped only between its own kind.
-/
namespace KernelLog.Text.Quoted

/-- The hexadecimal digits of a number, in lower case and without leading zeros. -/
def hexadecimal (number : Nat) : List Char :=
  Nat.toDigits 16 number

/-- How a character is written between quotes of a given kind. -/
def escape (quote c : Char) : List Char :=
  if c == quote || c == '\\' then ['\\', c]
  else if c == Char.ofNat 0 then ['\\', '0']
  else if c == '\t' then ['\\', 't']
  else if c == '\n' then ['\\', 'n']
  else if c == '\r' then ['\\', 'r']
  else if isGraphemeExtend c || !isPrintable c then
    ['\\', 'u', '\x7b'] ++ hexadecimal c.toNat ++ ['\x7d']
  else [c]

/-- A character between single quotes. -/
def char (c : Char) : String :=
  String.ofList ('\'' :: escape '\'' c ++ ['\''])

/-- A string between double quotes. -/
def string (text : String) : String :=
  String.ofList ('"' :: text.toList.flatMap (escape '"') ++ ['"'])

/-- A byte of no character, written by its two hexadecimal digits in upper case. -/
def strayByte (byte : UInt8) : List Char :=
  let digit (value : Nat) : Char := (Nat.digitChar value).toUpper
  ['\\', 'x', digit (byte.toNat / 16), digit (byte.toNat % 16)]

/-- Bytes that are mostly text, between double quotes. -/
def bytes (content : Bytes) : String :=
  let written : Utf8.Reading → List Char
    | .char c => escape '"' c
    | .broken stray => stray.flatMap strayByte
  String.ofList ('"' :: (Utf8.readings content).flatMap written ++ ['"'])

end KernelLog.Text.Quoted
