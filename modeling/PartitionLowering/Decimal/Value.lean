import PartitionLowering.Decimal.BinaryFormat
import PartitionLowering.Decimal.Numeral
import PartitionLowering.Size

/-!
The values of numerals.  A numeral without point and exponent that fits 64 bits is an integer.  Any
other one is read as a binary64 value in two roundings: its leading digits, as many as fit 64 bits,
become a significand that is rounded once and then multiplied or divided by a power of ten.
-/

set_option autoImplicit false

namespace PartitionLowering.Numeral

/-- Takes digits into a significand while it stays within a word; the rest is what no longer fits. -/
def absorb : Nat → List Digit → Nat × List Digit
  | significand, [] => (significand, [])
  | significand, digit :: rest =>
    if significand * 10 + digit.val < Size.bound then absorb (significand * 10 + digit.val) rest
    else (significand, digit :: rest)

def wholeDigits (n : Numeral) : List Digit :=
  (naturalChars n.whole).filterMap Digit.ofChar?

/-- The significand kept and the power of ten that it stands for. -/
def scaled (n : Numeral) : Nat × Int :=
  let (significand, wholeRest) := absorb 0 n.wholeDigits
  let (significand, fractionRest) := absorb significand n.fraction
  (significand,
    wholeRest.length - (n.fraction.length - fractionRest.length : Nat) + n.exponent.getD 0)

def powerOfTen (power : Nat) : Float :=
  Float.ofScientific 1 false power

/-- A significand below 64 bits divided by a power of ten; two divisions by the largest power of ten
bring every such value to zero. -/
def divideByPower (value : Float) (power : Nat) : Float :=
  if power ≤ 308 then value / powerOfTen power
  else if power ≤ 616 then value / powerOfTen 308 / powerOfTen (power - 308)
  else 0

/-- The magnitude as a binary64 value; there is none above the largest finite value. -/
def magnitude? (n : Numeral) : Option Float :=
  let (significand, power) := n.scaled
  let value := (UInt64.ofNat significand).toFloat
  if power < 0 then some (divideByPower value (-power).toNat)
  else if power ≤ 308 then
    let product := value * powerOfTen power.toNat
    if product.isFinite then some product else none
  else if significand = 0 then some 0
  else none

/-- The integer that the numeral denotes, if it is written as one and fits a signed or an unsigned
64-bit word.  `-0` is not an integer. -/
def integer? (n : Numeral) : Option Int :=
  if n.fraction = [] ∧ n.exponent = none then
    if n.negative then
      if n.whole ≠ 0 ∧ n.whole ≤ Size.bound / 2 then some (-n.whole) else none
    else if n.whole < Size.bound then some n.whole else none
  else none

def toFloat? (n : Numeral) : Option Float :=
  match n.integer? with
  | some value =>
    let magnitude := (UInt64.ofNat value.natAbs).toFloat
    some (if value < 0 then -magnitude else magnitude)
  | none => n.magnitude?.map fun magnitude => if n.negative then -magnitude else magnitude

/-- Integers are rounded once, other numerals by way of binary64. -/
def toFloat32? (n : Numeral) : Option Float32 :=
  match n.integer? with
  | some value =>
    let magnitude := (UInt64.ofNat value.natAbs).toFloat32
    some (if value < 0 then -magnitude else magnitude)
  | none => n.toFloat?.map BinaryFormat.narrow

end PartitionLowering.Numeral
