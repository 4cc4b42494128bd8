/-!
Decimal numerals as they are written: a sign, a whole part, digits after the point and a power of
ten.  A numeral is text with structure, not a number: `1`, `1.0` and `1e0` are three numerals.
-/

set_option autoImplicit false

namespace PartitionLowering

abbrev Digit := Fin 10

namespace Digit

def zero : Digit := ⟨0, by decide⟩

def toChar (digit : Digit) : Char :=
  Nat.digitChar digit.val

def ofChar? (c : Char) : Option Digit :=
  if c.isDigit then some (Fin.ofNat 10 (c.toNat - '0'.toNat)) else none

/-- The last `count` digits of `value`, leading zeros included. -/
def lowest : Nat → Nat → List Digit
  | 0, _ => []
  | count + 1, value => lowest count (value / 10) ++ [Fin.ofNat 10 value]

end Digit

/-- A numeral as written.  An empty `fraction` stands for a numeral without a point. -/
structure Numeral where
  negative : Bool
  whole : Nat
  fraction : List Digit := []
  exponent : Option Int := none
  deriving DecidableEq, Inhabited

namespace Numeral

def ofInt (value : Int) : Numeral where
  negative := decide (value < 0)
  whole := value.natAbs

def ofNat (value : Nat) : Numeral where
  negative := false
  whole := value

def signChars (negative : Bool) : List Char :=
  if negative then ['-'] else []

def naturalChars (value : Nat) : List Char :=
  Nat.toDigits 10 value

def integerChars (value : Int) : List Char :=
  signChars (decide (value < 0)) ++ naturalChars value.natAbs

theorem toList_toString (value : Int) : (toString value).toList = integerChars value := by
  rw [Int.toString_eq_repr, Int.repr_eq_if]
  by_cases below : value < 0
  · have magnitude : (-value).toNat = value.natAbs := by omega
    rw [if_neg (by omega), magnitude, Nat.repr_eq_ofList_toDigits]
    simp [integerChars, signChars, naturalChars, below]
  · have magnitude : value.toNat = value.natAbs := by omega
    rw [if_pos (by omega), magnitude, Nat.repr_eq_ofList_toDigits]
    simp [integerChars, signChars, naturalChars, below]

def fractionChars (fraction : List Digit) : List Char :=
  match fraction with
  | [] => []
  | digits => '.' :: digits.map Digit.toChar

def exponentChars : Option Int → List Char
  | none => []
  | some power => 'e' :: integerChars power

def chars (n : Numeral) : List Char :=
  signChars n.negative ++ naturalChars n.whole ++ fractionChars n.fraction ++
    exponentChars n.exponent

def text (n : Numeral) : String :=
  String.ofList n.chars

end Numeral

end PartitionLowering
