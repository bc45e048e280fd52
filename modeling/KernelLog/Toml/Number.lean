import KernelLog.Toml.Scan
import KernelLog.Toml.Value
/-!
# Numbers of a document

Integers have 64 bits and a sign, or are given in base 16, 8 or 2 without one. A float has a
fraction, an exponent or both; one that is too great for the format is refused, but one too far
below zero is negative infinity.
-/
namespace KernelLog.Toml.Scan

/-- Takes a sign off the front, if there is one, and tells whether it is a minus. -/
def sign : List Char → Bool × List Char
  | '+' :: text => (false, text)
  | '-' :: text => (true, text)
  | text => (false, text)

/-- Takes a decimal integer off the front: its sign and its digits, which begin with a zero only
if that is all there is. -/
def decimal : Scan (Bool × List Char) := fun text =>
  let (negative, text) := sign text
  match text with
  | '0' :: text => some ((negative, ['0']), text)
  | text => (digits Char.isDigit text).map fun (digits, rest) => ((negative, digits), rest)

/-- Takes the exponent of a float off the front. -/
def exponent : Scan Int
  | c :: text =>
    if c == 'e' || c == 'E' then
      let (negative, text) := sign text
      (digits Char.isDigit text).map fun (digits, rest) =>
        let size : Int := number 10 digits
        (if negative then -size else size, rest)
    else none
  | [] => none

/-- Takes the fraction of a float off the front, its point included. -/
def fraction : Scan (List Char)
  | '.' :: text => digits Char.isDigit text
  | _ => none

/-- Takes a float with a fraction or an exponent off the front. -/
def finiteFloat : Scan Value := fun text => do
  let ((negative, whole), text) ← decimal text
  let (places, power, rest) ←
    match fraction text with
    | some (places, text) =>
      match exponent text with
      | some (power, rest) => some (places, power, rest)
      | none => some (places, 0, text)
    | none => (exponent text).map fun (power, rest) => ([], power, rest)
  let value :=
    Decimal.Binary64.ofDecimal negative (number 10 (whole ++ places)) (power - places.length)
  if value = .infinite false then none else pure (.float value, rest)

/-- Takes infinity or the value that is no number off the front, with a sign or without. -/
def specialFloat : Scan Value := fun text =>
  let (negative, text) := sign text
  match literal "inf".toList text with
  | some rest => some (.float (.infinite negative), rest)
  | none => (literal "nan".toList text).map fun rest => (.float .notANumber, rest)

/-- The greatest integer. -/
def greatestInteger : Int := Int.pow 2 63 - 1

/-- Takes an integer in another base off the front, after the characters that announce it. -/
def basedInteger (base : Nat) : Scan Value := fun text => do
  let (digits, rest) ← digits (isDigitOf base) text
  let value : Int := number base digits
  if greatestInteger < value then none else pure (.integer value, rest)

/-- Takes an integer off the front. -/
def integer : Scan Value
  | '0' :: 'x' :: text => basedInteger 16 text
  | '0' :: 'o' :: text => basedInteger 8 text
  | '0' :: 'b' :: text => basedInteger 2 text
  | text => do
    let ((negative, digits), rest) ← decimal text
    let size : Int := number 10 digits
    let value := if negative then -size else size
    if greatestInteger < value || value < -greatestInteger - 1 then none
    else pure (.integer value, rest)

end KernelLog.Toml.Scan
