/-!
Sizes that fit a 64-bit word.  Element counts and byte lengths are products; each step of a product
is checked, so a zero does not make good for an overflow before it.
-/

set_option autoImplicit false

namespace PartitionLowering.Size

/-- Sizes are below two to the power of 64. -/
def bound : Nat := 18446744073709551616

/-- A product that stays below the bound. -/
def mul? (a b : Nat) : Option Nat :=
  if a * b < bound then some (a * b) else none

/-- The product of `extents`, each prefix of which stays below the bound. -/
def product? (extents : List Nat) : Option Nat :=
  extents.foldlM mul? 1

def bytesOfBits (bits : Nat) : Nat :=
  bits / 8 + if bits % 8 = 0 then 0 else 1

/-- The bytes that hold `count` elements of `width` bits packed together. -/
def packed? (count width : Nat) : Option Nat :=
  (mul? count width).map bytesOfBits

end PartitionLowering.Size
