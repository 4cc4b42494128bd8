import PartitionLowering.Decimal.Numeral
import PartitionLowering.Decimal.Shortest

/-!
How floating-point values are written.  The digits are the fewest that read back; a `Style` decides
the rest: which powers of ten are written out, whether a whole number keeps `.0`, and which way an
exact tie goes.
-/

set_option autoImplicit false

namespace PartitionLowering

/-- The decisions of one way of writing floating-point values. -/
structure Style where
  /-- The powers of the leading digit, first to last, that are written without an exponent; all of
  them if absent. -/
  positional : Option (Int × Int)
  /-- Whether a whole number written out ends in `.0`. -/
  zeroFraction : Bool
  tie : Tie

namespace Style

/-- Running text: never an exponent, no `.0`. -/
def plain : Style := ⟨none, false, .upward⟩

/-- Listings of options: `.0` is kept, and an exponent appears below `1e-4` and from `1e16` on. -/
def detailed : Style := ⟨some (-4, 15), true, .upward⟩

/-- Fixture files: `.0` is kept, an exponent appears below `1e-5` and from `1e16` on. -/
def fixture : Style := ⟨some (-5, 15), true, .toEven⟩

def numeral (style : Style) (negative : Bool) (d : Decimal) : Numeral :=
  let tail := (Nat.toDigits 10 d.coefficient).length - 1
  let leading : Int := d.power + tail
  let writtenOut := match style.positional with
    | none => true
    | some (first, last) => decide (d.coefficient = 0) || decide (first ≤ leading ∧ leading ≤ last)
  if writtenOut then
    if 0 ≤ d.power then
      { negative, whole := d.coefficient * Nat.pow 10 d.power.toNat,
        fraction := if style.zeroFraction then [Digit.zero] else [] }
    else
      let places := (-d.power).toNat
      { negative, whole := d.coefficient / Nat.pow 10 places,
        fraction := Digit.lowest places d.coefficient }
  else
    { negative, whole := d.coefficient / Nat.pow 10 tail,
      fraction := Digit.lowest tail d.coefficient, exponent := some leading }

/-- The numeral for a bit pattern; there is none for infinities and for what is not a number. -/
def numeral? (style : Style) (format : BinaryFormat) (bits : Nat) : Option Numeral :=
  match format.decode bits with
  | .finite negative magnitude =>
    some (style.numeral negative (magnitude.shortest style.tie format.decimalDigits))
  | .infinite _ => none
  | .notANumber => none

def text (style : Style) (format : BinaryFormat) (bits : Nat) : String :=
  match format.decode bits with
  | .finite negative magnitude =>
    (style.numeral negative (magnitude.shortest style.tie format.decimalDigits)).text
  | .infinite negative => if negative then "-inf" else "inf"
  | .notANumber => "NaN"

def text32 (style : Style) (value : Float32) : String :=
  style.text .binary32 value.toBits.toNat

def text64 (style : Style) (value : Float) : String :=
  style.text .binary64 value.toBits.toNat

end Style

end PartitionLowering
