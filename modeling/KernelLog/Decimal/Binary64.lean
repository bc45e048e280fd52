/-!
# Binary floating-point numbers of 64 bits

A finite number is an integer of at most 53 bits times a power of two. `ofDecimal` rounds an exact
decimal number to the nearest such number, of two equally near ones to the one with the even
integer. All arithmetic is on natural numbers and exact.
-/
namespace KernelLog.Decimal

/-- A number in the 64-bit binary format: `mantissa * 2 ^ exponent` with a sign, or a value beyond
the finite ones. -/
inductive Binary64
  | finite (negative : Bool) (mantissa : Nat) (exponent : Int)
  | infinite (negative : Bool)
  | notANumber
  deriving DecidableEq, Repr

namespace Binary64

/-- The number of bits of a mantissa. -/
def precision : Nat := 53

/-- The least power of two that a mantissa is multiplied by. -/
def leastExponent : Int := -1074

/-- The greatest power of two that a mantissa is multiplied by. -/
def greatestExponent : Int := 971

/-- A quotient as numerator and denominator, multiplied by a power of `base`. -/
def scale (base numerator denominator : Nat) (exponent : Int) : Nat × Nat :=
  (numerator * base.pow exponent.toNat, denominator * base.pow (-exponent).toNat)

/-- The nearest natural number to a quotient, the even one of two that are equally near. -/
def roundToEven (numerator denominator : Nat) : Nat :=
  let whole := numerator / denominator
  let rest := numerator % denominator
  if rest * 2 < denominator then whole
  else if denominator < rest * 2 then whole + 1
  else if whole % 2 = 0 then whole
  else whole + 1

/-- The nearest number to a positive quotient. -/
def ofQuotient (negative : Bool) (numerator denominator : Nat) : Binary64 :=
  let estimate : Int := (Nat.log2 numerator : Int) - (Nat.log2 denominator : Int) - 53
  let low := max estimate leastExponent
  let scaled := scale 2 numerator denominator (-low)
  let exponent := if Nat.pow 2 precision ≤ scaled.1 / scaled.2 then low + 1 else low
  let (numerator, denominator) := scale 2 numerator denominator (-exponent)
  let mantissa := roundToEven numerator denominator
  let (mantissa, exponent) :=
    if mantissa = Nat.pow 2 precision then (Nat.pow 2 (precision - 1), exponent + 1)
    else (mantissa, exponent)
  if greatestExponent < exponent then infinite negative else finite negative mantissa exponent

/-- A decimal exponent beyond which a number is infinite, or below whose negative it is zero,
whatever its digits are. -/
def decimalLimit : Int := 400

/-- The nearest number to `digits * 10 ^ exponent` with a sign. -/
def ofDecimal (negative : Bool) (digits : Nat) (exponent : Int) : Binary64 :=
  if digits = 0 then finite negative 0 leastExponent
  else
    let size : Int := (Nat.toDigits 10 digits).length + exponent
    if decimalLimit < size then infinite negative
    else if size < -decimalLimit then finite negative 0 leastExponent
    else
      let (numerator, denominator) := scale 10 digits 1 exponent
      ofQuotient negative numerator denominator

end Binary64
end KernelLog.Decimal
