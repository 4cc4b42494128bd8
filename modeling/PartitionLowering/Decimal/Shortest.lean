import PartitionLowering.Decimal.BinaryFormat

/-!
The fewest decimal digits that read back.  A magnitude of a binary format owns the interval of reals
that round to it, ends included iff its significand is even.  `Dyadic.shortest` looks at the decimal
grids from coarse to fine and takes, on the first grid with a point inside, the point nearest to the
value.
-/

set_option autoImplicit false

namespace PartitionLowering

/-- Which of two equally near candidates is taken. -/
inductive Tie
  | upward
  | toEven
  deriving DecidableEq

/-- A decimal magnitude `coefficient * 10 ^ power`. -/
structure Decimal where
  coefficient : Nat
  power : Int
  deriving DecidableEq

namespace Decimal

/-- The same magnitude without zeros at the end of the coefficient, at most `count` of them. -/
def trim : Nat → Decimal → Decimal
  | 0, d => d
  | count + 1, d =>
    if d.coefficient ≠ 0 ∧ d.coefficient % 10 = 0 then
      trim count ⟨d.coefficient / 10, d.power + 1⟩
    else d

end Decimal

namespace Dyadic

/-- Numerator and denominator of `2 ^ (exponent - 2) * 10 ^ shift`, the unit in which the value and
the ends of its interval are whole numbers. -/
def unit (d : Dyadic) (shift : Int) : Nat × Nat :=
  (Nat.pow 2 (d.exponent - 2).toNat * Nat.pow 10 shift.toNat,
    Nat.pow 2 (2 - d.exponent).toNat * Nat.pow 10 (-shift).toNat)

/-- The whole number nearest to the value times `10 ^ shift`, if one of the two around it lies in the
interval. -/
def candidate? (d : Dyadic) (tie : Tie) (shift : Int) : Option Nat :=
  let (num, den) := d.unit shift
  let value := 4 * d.significand * num
  let low := (4 * d.significand - if d.narrowBelow then 1 else 2) * num
  let high := (4 * d.significand + 2) * num
  let inside (point : Nat) : Bool :=
    if d.significand % 2 = 0 then low ≤ point && point ≤ high else low < point && point < high
  let floor := value / den
  let below := floor * den
  let above := (floor + 1) * den
  match inside below, inside above with
  | false, false => none
  | true, false => some floor
  | false, true => some (floor + 1)
  | true, true =>
    if 2 * value < below + above then some floor
    else if below + above < 2 * value then some (floor + 1)
    else match tie with
      | .upward => some (floor + 1)
      | .toEven => some (if floor % 2 = 0 then floor else floor + 1)

/-- The count of digits before the point, zero or negative for a value below one tenth. -/
def leadingPower (d : Dyadic) : Int :=
  let (num, den) := d.unit 0
  let value := 4 * d.significand * num
  if den ≤ value then (Nat.toDigits 10 (value / den)).length
  else 1 - (Nat.toDigits 10 ((den - 1) / value)).length

/-- The decimal magnitude with the fewest digits that rounds to `d`, the nearest among those. -/
def shortest (d : Dyadic) (tie : Tie) (maxDigits : Nat) : Decimal :=
  if d.significand = 0 then ⟨0, 0⟩
  else
    let found := (List.range maxDigits).findSome? fun (count : Nat) =>
      let shift : Int := (count + 1 : Nat) - d.leadingPower
      (d.candidate? tie shift).map fun coefficient => Decimal.mk coefficient (-shift)
    (found.getD ⟨d.significand, 0⟩).trim maxDigits

end Dyadic

end PartitionLowering
