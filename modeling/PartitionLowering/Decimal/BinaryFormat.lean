/-!
Binary floating-point formats, read from their bits.  A finite value is a sign and a magnitude
`significand * 2 ^ exponent`; beside it stands whether the gap to the next smaller value is half of
the gap above, which is so at powers of two.  A value goes from one format to another by rounding to the
nearest.
-/

set_option autoImplicit false

namespace PartitionLowering

/-- A magnitude of a binary format. -/
structure Dyadic where
  significand : Nat
  exponent : Int
  narrowBelow : Bool
  deriving DecidableEq

inductive BinaryValue
  | notANumber
  | infinite (negative : Bool)
  | finite (negative : Bool) (magnitude : Dyadic)
  deriving DecidableEq

/-- The widths of a format, and a count of decimal digits that tells all of its values apart. -/
structure BinaryFormat where
  fractionBits : Nat
  exponentBits : Nat
  decimalDigits : Nat

namespace BinaryFormat

def binary32 : BinaryFormat := ⟨23, 8, 9⟩

def binary64 : BinaryFormat := ⟨52, 11, 17⟩

def decode (format : BinaryFormat) (bits : Nat) : BinaryValue :=
  let one := Nat.pow 2 format.fractionBits
  let exponents := Nat.pow 2 format.exponentBits
  let fraction := bits % one
  let biased := bits / one % exponents
  let negative := decide (bits / one / exponents % 2 = 1)
  let lowest : Int := 2 - (exponents / 2 : Nat) - format.fractionBits
  if biased + 1 = exponents then
    if fraction = 0 then .infinite negative else .notANumber
  else if biased = 0 then
    .finite negative ⟨fraction, lowest, false⟩
  else
    .finite negative
      ⟨fraction + one, lowest + (biased - 1), fraction = 0 && 1 < biased⟩

/-! ## From one format to another -/

open Float.Model (UnpackedFloat Format)

/-- The value of a format that is nearest, the even one of two. -/
def nearest (format : Format) : UnpackedFloat → UnpackedFloat
  | .finite sign significand exponent _ => .round format sign significand exponent
  | value => value

def widen (value : Float32) : Float :=
  .ofModel (.pack (nearest .binary64 value.toModel.unpack))

def narrow (value : Float) : Float32 :=
  .ofModel (.pack (nearest .binary32 value.toModel.unpack))

end BinaryFormat

end PartitionLowering
