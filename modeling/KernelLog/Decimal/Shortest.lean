import KernelLog.Decimal.Binary64
/-!
# The shortest decimal text of a binary number

A finite number is written with the fewest digits that read back as the same number, and of those
the nearest. Between any two binary neighbours there is room for a decimal number of 17 digits, so
the search over 1 to 17 digits ends. The digits are laid out positionally, without an exponent, and
a whole number keeps a point and a zero.
-/
namespace KernelLog.Decimal

/-- Decimal digits and the power of ten that the last one counts. -/
structure Digits where
  digits : Nat
  exponent : Int
  deriving DecidableEq, Repr

namespace Binary64

/-- The numbers that read back as `mantissa * 2 ^ exponent` lie between two bounds, given as
multiples of `2 ^ (exponent - 2)`. Below a power of two the neighbour is only half as far. -/
structure Interval where
  lower : Nat
  upper : Nat

/-- The bounds of the numbers that read back as a given one. -/
def interval (mantissa : Nat) (exponent : Int) : Interval where
  lower :=
    if mantissa = Nat.pow 2 (precision - 1) && leastExponent < exponent then 4 * mantissa - 1
    else 4 * mantissa - 2
  upper := 4 * mantissa + 2

/-- Whether `candidate * 10 ^ power` reads back as `mantissa * 2 ^ exponent`. The bounds themselves
do when the mantissa is even. -/
def readsBack (mantissa : Nat) (exponent : Int) (candidate : Nat) (power : Int) : Bool :=
  let bounds := interval mantissa exponent
  let (tens, tensBelow) := scale 10 candidate 1 power
  let (twos, twosBelow) := scale 2 1 1 (exponent - 2)
  let value := tens * twosBelow
  let lower := bounds.lower * twos * tensBelow
  let upper := bounds.upper * twos * tensBelow
  if mantissa % 2 = 0 then lower ≤ value && value ≤ upper else lower < value && value < upper

/-- The power of ten of the first digit of a positive quotient. -/
def leadingPower (numerator denominator : Nat) : Int :=
  if denominator ≤ numerator then
    ((Nat.toDigits 10 (numerator / denominator)).length : Int) - 1
  else
    let size := (Nat.toDigits 10 (denominator / numerator)).length
    if denominator ≤ numerator * Nat.pow 10 (size - 1) then -((size : Int) - 1) else -(size : Int)

/-- The two neighbours of the number on the grid of a power of ten, those kept that read back, the
nearer first. Of two that are equally near the greater comes first. -/
def neighbours (mantissa : Nat) (exponent power : Int) : List Nat :=
  let (numerator, denominator) := scale 2 mantissa 1 exponent
  let (numerator, denominator) := scale 10 numerator denominator (-power)
  let below := numerator / denominator
  let rest := numerator % denominator
  let ordered := if rest * 2 < denominator then [below, below + 1] else [below + 1, below]
  ordered.filter (readsBack mantissa exponent · power)

/-- The fewest digits, from `count` on, that read back as the number. A neighbour above that is the
next power of ten has one digit more than was asked for, a zero, which is left out. -/
def search (mantissa : Nat) (exponent leading : Int) : (attempts count : Nat) → Option Digits
  | 0, _ => none
  | attempts + 1, count =>
    let power := leading + 1 - count
    match neighbours mantissa exponent power with
    | nearest :: _ =>
      if nearest = Nat.pow 10 count then
        some { digits := Nat.pow 10 (count - 1), exponent := power + 1 }
      else some { digits := nearest, exponent := power }
    | [] => search mantissa exponent leading attempts (count + 1)

/-- The shortest digits of a positive number. -/
def shortest (mantissa : Nat) (exponent : Int) : Digits :=
  let (numerator, denominator) := scale 2 mantissa 1 exponent
  ((search mantissa exponent (leadingPower numerator denominator) 17 1).getD
    { digits := mantissa, exponent := exponent })

end Binary64

/-- Digits laid out around a decimal point; there is always one digit on each side of it. -/
def Digits.positional (written : Digits) : String :=
  let digits := Nat.toDigits 10 written.digits
  if 0 ≤ written.exponent then
    String.ofList (digits ++ List.replicate written.exponent.toNat '0' ++ ['.', '0'])
  else
    let places := (-written.exponent).toNat
    let padded := List.replicate (places + 1 - digits.length) '0' ++ digits
    String.ofList
      (padded.take (padded.length - places) ++ '.' :: padded.drop (padded.length - places))

namespace Binary64

/-- The text of a number. -/
def text : Binary64 → String
  | finite negative mantissa exponent =>
    let sign := if negative then "-" else ""
    if mantissa = 0 then sign ++ "0.0"
    else sign ++ (shortest mantissa exponent).positional
  | infinite negative => if negative then "-inf" else "inf"
  | notANumber => "NaN"

end Binary64
end KernelLog.Decimal
