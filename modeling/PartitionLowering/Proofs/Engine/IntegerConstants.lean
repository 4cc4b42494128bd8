import Mathlib.Data.Int.ModEq
import Mathlib.Data.Nat.Digits.Defs
import PartitionLowering.Proofs.Engine.Arena

/-!
The integers of a constant.  `ElementType.Denotes` says by itself which integer a group of bytes is in a type.
A constant of an integer type holds one integer for each of its elements, the one that the group of bytes at its
position denotes (`Graph.integers_of_addConstant`), but for unsigned words of 64 bits: what is above the
signed ones comes out negative (`Graph.largest_word_is_negative`).
-/

set_option autoImplicit false

namespace PartitionLowering

/-! ## Bytes in a type -/

namespace ElementType

/-- The integer types of whole bytes. -/
def integral : List ElementType :=
  [.i8, .u8, .i16, .u16, .i32, .u32, .i64, .u64]

def hasSign : ElementType → Bool
  | .i4 | .i8 | .i16 | .i32 | .i64 => true
  | _ => false

def Holds (type : ElementType) (value : Int) : Prop :=
  if type.hasSign then -2 ^ (type.bitWidth - 1) ≤ value ∧ value < 2 ^ (type.bitWidth - 1)
  else 0 ≤ value ∧ value < 2 ^ type.bitWidth

/-- The bytes are those of an integer of the type: they fill the type's width, and the integer is the number
that they are the digits of, least significant first, up to multiples of two to the width. -/
structure Denotes (type : ElementType) (bytes : List UInt8) (value : Int) : Prop where
  width : 8 * bytes.length = type.bitWidth
  holds : type.Holds value
  digits : value ≡ (Nat.ofDigits 256 (bytes.map UInt8.toNat) : Nat) [ZMOD 2 ^ type.bitWidth]

def bytesAt (type : ElementType) (payload : List UInt8) (position : Nat) : List UInt8 :=
  (payload.drop (position * (type.bitWidth / 8))).take (type.bitWidth / 8)

/-- Bytes denote one integer of a type at most. -/
theorem Denotes.unique {type : ElementType} {bytes : List UInt8} {value value' : Int}
    (denotes : type.Denotes bytes value) (denotes' : type.Denotes bytes value') : value = value' := by
  have same : value ≡ value' [ZMOD 2 ^ type.bitWidth] := denotes.digits.trans denotes'.digits.symm
  have low := denotes.holds
  have low' := denotes'.holds
  rw [Int.ModEq] at same
  cases type <;> simp [Holds, hasSign, bitWidth] at low low' same <;> omega

end ElementType

namespace LittleEndian

theorem unsigned_eq_ofDigits (bytes : List UInt8) :
    unsigned bytes = Nat.ofDigits 256 (bytes.map UInt8.toNat) := by
  induction bytes with
  | nil => rfl
  | cons byte rest ih => rw [unsigned, List.map_cons, Nat.ofDigits_cons, ih]

theorem signed_modEq (bytes : List UInt8) :
    signed bytes ≡ unsigned bytes [ZMOD Nat.pow 256 bytes.length] := by
  rw [signed]
  split
  · rfl
  · exact Int.modEq_iff_dvd.2 ⟨1, by omega⟩

end LittleEndian

namespace ElementType

open LittleEndian

variable {type : ElementType} {bytes : List UInt8}

theorem range_eq (width : 8 * bytes.length = type.bitWidth) :
    Nat.pow 256 bytes.length = 2 ^ type.bitWidth := by
  rw [← width, pow_mul]
  rfl

theorem denotes_unsigned (width : 8 * bytes.length = type.bitWidth) (plain : type.hasSign = false) :
    type.Denotes bytes (unsigned bytes) := by
  refine ⟨width, ?_, ?_⟩
  · have below := unsigned_lt bytes
    rw [range_eq width] at below
    simp only [Holds, plain, Bool.false_eq_true, if_false]
    exact ⟨Int.natCast_nonneg _, by exact_mod_cast below⟩
  · rw [unsigned_eq_ofDigits]

theorem denotes_signed (width : 8 * bytes.length = type.bitWidth) (sign : type.hasSign = true) :
    type.Denotes bytes (signed bytes) := by
  refine ⟨width, ?_, ?_⟩
  · obtain ⟨low, high⟩ := signed_range bytes
    have some_bits : 0 < type.bitWidth := by cases type <;> decide
    have half : 2 ^ type.bitWidth = 2 * 2 ^ (type.bitWidth - 1) := (mul_pow_sub_one some_bits.ne' 2).symm
    rw [range_eq width, half] at low high
    push_cast at low high
    simp only [Holds, sign, if_true]
    omega
  · have same := signed_modEq bytes
    rw [range_eq width, unsigned_eq_ofDigits] at same
    exact_mod_cast same

/-- The integer that stands for one that the bytes denote: words without a sign are read as words with one. -/
def wrapped (type : ElementType) (denoted : Int) : Int :=
  if type = .u64 ∧ 2 ^ 63 ≤ denoted then denoted - 2 ^ 64 else denoted

theorem signed_eq_wrapped (width : bytes.length = 8) :
    signed bytes = wrapped .u64 (unsigned bytes) := by
  have range : Nat.pow 256 bytes.length = 18446744073709551616 := by rw [width]
  rw [signed, range]
  simp only [wrapped, true_and]
  split <;> split <;> omega

/-- The code of a type reads what the bytes denote, wrapped around where they are a word without a sign. -/
theorem exists_denoted {code : Nat × (List UInt8 → Int)} (coded : type.integerCode? = some code)
    (width : bytes.length = code.1) :
    ∃ denoted, type.Denotes bytes denoted ∧ code.2 bytes = type.wrapped denoted := by
  cases type with
  | i8 | i16 | i32 | i64 =>
    cases coded
    exact ⟨signed bytes, denotes_signed (by rw [width]; rfl) rfl, rfl⟩
  | u8 | u16 | u32 =>
    cases coded
    exact ⟨unsigned bytes, denotes_unsigned (by rw [width]; rfl) rfl, rfl⟩
  | u64 =>
    cases coded
    exact ⟨unsigned bytes, denotes_unsigned (by rw [width]; rfl) rfl, signed_eq_wrapped width⟩
  | boolean | f16 | f32 | f64 | i4 => cases coded

theorem exists_code (member : type ∈ integral) :
    ∃ code, type.integerCode? = some code ∧ 0 < code.1 ∧ type.bitWidth = 8 * code.1 := by
  revert type
  simp [integral, integerCode?, bitWidth]

end ElementType

/-! ## Payloads -/

/-- A payload of elements of whole bytes is cut into as many groups as there are elements. -/
theorem Graph.length_of_sized {type : ElementType} {shape : Shape} {width bytes : Nat}
    (bits : type.bitWidth = 8 * width)
    (sized : (Shape.elementCount? shape).bind type.byteLength? = some bytes) :
    ∃ count, Shape.elementCount? shape = some count ∧ bytes = count * width := by
  obtain ⟨count, counted, packed⟩ := Option.bind_eq_some_iff.1 sized
  obtain ⟨total, product, rfl⟩ := Option.map_eq_some_iff.1 packed
  rw [Size.mul?, Option.ite_none_right_eq_some, Option.some_inj] at product
  refine ⟨count, counted, ?_⟩
  rw [← product.2, bits, bytesOfBits_bytes]

namespace Graph

open ElementType

/-- A constant of an integer type goes on holding one integer for each element: the one that the bytes of the
element denote in the type, wrapped around where it is an unsigned word too large for a signed one. -/
theorem integers_of_addConstant {graph longer after : Graph} {node : Node} {type : ElementType}
    {shape : Shape} {payload : List UInt8} (integral : type ∈ integral)
    (added : graph.addConstant type shape payload = .ok (node, longer)) (grown : longer.Extends after) :
    ∃ values, after.integers? node.id = some values ∧
      Shape.elementCount? shape = some values.length ∧
      ∀ (position : Nat) (below : position < values.length),
        ∃ denoted, type.Denotes (type.bytesAt payload position) denoted ∧
          values[position] = type.wrapped denoted := by
  obtain ⟨sized, pushed⟩ := addConstant_eq_ok.1 added
  obtain ⟨⟨width, read⟩, coded, some_bytes, bits⟩ := exists_code integral
  obtain ⟨count, counted, length⟩ := length_of_sized bits sized
  have groups : payload.length / width = count := by
    rw [length, Nat.mul_div_cancel _ some_bytes]
  cases pushed
  have held : (graph.push (.constant payload) [] (shape, type)).2.integers? graph.size =
      some ((LittleEndian.groups width payload).map read) := by
    rw [integers?, node?_push_self, Option.bind_some, push_fst, Node.integers?, coded]
    rfl
  refine ⟨_, grown.integers? held, ?_, ?_⟩
  · rw [List.length_map, LittleEndian.length_groups, groups, counted]
  · intro position below
    have bytes : type.bitWidth / 8 = width := by omega
    have inside : position < (LittleEndian.groups width payload).length := by
      rwa [List.length_map] at below
    have here : (LittleEndian.groups width payload)[position] = type.bytesAt payload position := by
      simp [LittleEndian.groups, bytesAt, bytes]
    have whole : (type.bytesAt payload position).length = width := by
      rw [← here]
      exact LittleEndian.length_of_mem_groups (List.getElem_mem inside)
    obtain ⟨denoted, denotes, same⟩ := exists_denoted coded whole
    refine ⟨denoted, denotes, ?_⟩
    rw [← same, List.getElem_map, here]

def twoWords : List UInt8 :=
  [5, 0, 0, 0, 0, 0, 0, 0, 255, 255, 255, 255, 255, 255, 255, 255]

/-- Both words are there when a parameter has been added behind them. -/
theorem integers_of_addConstant_words :
    ElementType.u64 ∈ integral ∧
      ∃ node longer, ({} : Graph).addConstant .u64 [2] twoWords = .ok (node, longer) ∧
        longer.Extends (longer.addParameter .f32 [3]).2 ∧
        ∃ values, (longer.addParameter .f32 [3]).2.integers? node.id = some values ∧
          Shape.elementCount? [2] = some values.length ∧
          ∀ (position : Nat) (below : position < values.length),
            ∃ denoted, ElementType.u64.Denotes (ElementType.u64.bytesAt twoWords position) denoted ∧
              values[position] = ElementType.u64.wrapped denoted := by
  have member : ElementType.u64 ∈ integral := by decide
  have added : ({} : Graph).addConstant .u64 [2] twoWords =
      .ok (({} : Graph).push (.constant twoWords) [] ([2], .u64)) := rfl
  have grown := extends_push (({} : Graph).push (.constant twoWords) [] ([2], .u64)).2 .parameter []
    ([3], .f32)
  exact ⟨member, _, _, added, grown, integers_of_addConstant member added grown⟩

/-- The largest unsigned word is read as minus one, which its bytes do not denote. -/
theorem largest_word_is_negative :
    ∃ node longer, ({} : Graph).addConstant .u64 [1] (List.replicate 8 255) = .ok (node, longer) ∧
      longer.integers? node.id = some [-1] ∧
      ElementType.u64.Denotes (ElementType.u64.bytesAt (List.replicate 8 255) 0) (2 ^ 64 - 1) ∧
      ¬ElementType.u64.Denotes (ElementType.u64.bytesAt (List.replicate 8 255) 0) (-1) := by
  have all : (LittleEndian.unsigned (ElementType.u64.bytesAt (List.replicate 8 255) 0) : Int) =
      2 ^ 64 - 1 := by decide
  have denoted : ElementType.u64.Denotes (ElementType.u64.bytesAt (List.replicate 8 255) 0)
      (2 ^ 64 - 1) := by
    rw [← all]
    exact denotes_unsigned (by decide) rfl
  exact ⟨_, _, rfl, by decide, denoted, fun negative => absurd (negative.unique denoted) (by decide)⟩

end Graph

end PartitionLowering
