import PartitionLowering.Engine.Graph

/-!
Reading back the integers that a constant was made of.

Main statements: `integers?_int32` and `integers?_int64` (a constant of 32-bit or of 64-bit integers
holds the integers that it was made of), from `groups_flatMap` (cutting a payload made of groups of one
width gives those groups) and `signed_encodeInt32`, `signed_encodeInt64` (a group is read with its sign).
A group that was not written here is read within the range of its width (`unsigned_lt`, `signed_range`), and
what is read is written as that group again (`encode_unsigned`, `encodeInt32_int32`).
-/

set_option autoImplicit false

namespace PartitionLowering.LittleEndian

theorem groups_append (width : Nat) (positive : 0 < width) (group rest : List UInt8)
    (whole : group.length = width) :
    groups width (group ++ rest) = group :: groups width rest := by
  have count : (group ++ rest).length / width = rest.length / width + 1 := by
    rw [List.length_append, whole, Nat.add_comm, Nat.add_div_right _ positive]
  have first : (group ++ rest).take width = group := by
    rw [← whole, List.take_left]
  have later : ∀ i, (group ++ rest).drop ((i + 1) * width) = rest.drop (i * width) := by
    intro i
    rw [Nat.add_mul, Nat.one_mul, Nat.add_comm, ← List.drop_drop, ← whole, List.drop_left]
  rw [groups, count, List.range_succ_eq_map, List.map_cons, List.map_map]
  simp only [Nat.zero_mul, List.drop_zero, first, groups]
  congr 1
  apply List.map_congr_left
  intro i _
  simp only [Function.comp_apply, later]

theorem groups_flatMap {α : Type} (width : Nat) (positive : 0 < width) (write : α → List UInt8)
    (whole : ∀ value, (write value).length = width) (values : List α) :
    groups width (values.flatMap write) = values.map write := by
  induction values with
  | nil => simp [groups]
  | cons value rest ih =>
    rw [List.flatMap_cons, groups_append width positive _ _ (whole value), ih, List.map_cons]

theorem length_of_mem_groups {width : Nat} {bytes group : List UInt8}
    (member : group ∈ groups width bytes) : group.length = width := by
  obtain ⟨i, below, rfl⟩ := List.mem_map.1 member
  have inside : (i + 1) * width ≤ bytes.length := by
    calc (i + 1) * width
        ≤ bytes.length / width * width := Nat.mul_le_mul_right width (List.mem_range.1 below)
      _ ≤ bytes.length := Nat.div_mul_le_self _ _
  rw [Nat.add_mul, Nat.one_mul] at inside
  rw [List.length_take, List.length_drop]
  omega

@[simp] theorem length_encodeInt32 (value : Int32) : (encodeInt32 value).length = 4 :=
  length_encode 4 _

@[simp] theorem length_encodeInt64 (value : Int64) : (encodeInt64 value).length = 8 :=
  length_encode 8 _

theorem signed_encodeInt32 (value : Int32) : signed (encodeInt32 value) = value.toInt := by
  have small : value.toUInt32.toNat < 4294967296 := value.toUInt32.toNat_lt
  have word : value.toBitVec.toNat = value.toUInt32.toNat := rfl
  have read : unsigned (encodeInt32 value) = value.toUInt32.toNat := by
    rw [encodeInt32, unsigned_encode]
    exact Nat.mod_eq_of_lt small
  rw [signed, read, length_encodeInt32, ← Int32.toInt_toBitVec, BitVec.toInt_eq_toNat_cond, word]

theorem signed_encodeInt64 (value : Int64) : signed (encodeInt64 value) = value.toInt := by
  have small : value.toUInt64.toNat < 18446744073709551616 := value.toUInt64.toNat_lt
  have word : value.toBitVec.toNat = value.toUInt64.toNat := rfl
  have read : unsigned (encodeInt64 value) = value.toUInt64.toNat := by
    rw [encodeInt64, unsigned_encode]
    exact Nat.mod_eq_of_lt small
  rw [signed, read, length_encodeInt64, ← Int64.toInt_toBitVec, BitVec.toInt_eq_toNat_cond, word]

theorem unsigned_lt (bytes : List UInt8) : unsigned bytes < Nat.pow 256 bytes.length := by
  induction bytes with
  | nil => decide
  | cons byte rest ih =>
    have low : byte.toNat < 256 := byte.toNat_lt
    have step : Nat.pow 256 (byte :: rest).length = 256 * Nat.pow 256 rest.length := Nat.pow_succ'
    rw [unsigned, step]
    omega

/-- A positive number is read alike with a sign and without. -/
theorem signed_of_pos {bytes : List UInt8} (positive : 0 < signed bytes) :
    signed bytes = unsigned bytes := by
  have below := unsigned_lt bytes
  rw [signed] at positive ⊢
  by_cases low : 2 * unsigned bytes < Nat.pow 256 bytes.length
  · simp only [low, if_true]
  · simp only [low, if_false] at positive
    omega

/-- With a sign the range is halved around zero. -/
theorem signed_range (bytes : List UInt8) :
    -(Nat.pow 256 bytes.length : Int) ≤ 2 * signed bytes ∧
      2 * signed bytes < Nat.pow 256 bytes.length := by
  have below := unsigned_lt bytes
  rw [signed]
  split <;> omega

/-- Four bytes are read as they are by the words of 32 bits. -/
theorem toInt_int32 {bytes : List UInt8} (width : bytes.length = 4) :
    (int32 bytes).toInt = signed bytes := by
  have range : Nat.pow 256 bytes.length = 4294967296 := by rw [width]
  obtain ⟨low, high⟩ := signed_range bytes
  rw [range] at low high
  exact Int32.toInt_ofInt_of_le (by omega) (by omega)

theorem int32_encodeInt32 (value : Int32) : int32 (encodeInt32 value) = value := by
  rw [int32, signed_encodeInt32, Int32.ofInt_toInt]

theorem map_int32_groups (values : List Int32) :
    (groups 4 (values.flatMap encodeInt32)).map int32 = values := by
  rw [groups_flatMap 4 (by decide) _ length_encodeInt32, List.map_map]
  exact List.map_id'' int32_encodeInt32 values

/-! ## Writing what was read -/

theorem encode_unsigned (bytes : List UInt8) : encode bytes.length (unsigned bytes) = bytes := by
  induction bytes with
  | nil => rfl
  | cons byte rest ih =>
    have small : byte.toNat < 256 := byte.toNat_lt
    have low : UInt8.ofNat (unsigned (byte :: rest)) = byte := by
      apply UInt8.toNat_inj.1
      simp [unsigned]
    have high : unsigned (byte :: rest) / 256 = unsigned rest := by
      rw [unsigned]
      omega
    rw [List.length_cons, encode, low, high, ih]

/-- Groups of one width are told apart by the numbers that they denote. -/
theorem eq_of_signed {bytes bytes' : List UInt8} (width : bytes.length = bytes'.length)
    (same : signed bytes = signed bytes') : bytes = bytes' := by
  have below := unsigned_lt bytes
  have below' := unsigned_lt bytes'
  have number : unsigned bytes = unsigned bytes' := by
    rw [width] at below
    simp only [signed, width] at same
    split at same <;> split at same <;> omega
  rw [← encode_unsigned bytes, ← encode_unsigned bytes', width, number]

theorem encodeInt32_int32 {bytes : List UInt8} (width : bytes.length = 4) :
    encodeInt32 (int32 bytes) = bytes := by
  apply eq_of_signed
  · rw [length_encodeInt32, width]
  · rw [signed_encodeInt32, toInt_int32 width]

theorem encodeInt32_injective {value value' : Int32} (same : encodeInt32 value = encodeInt32 value') :
    value = value' := by
  rw [← int32_encodeInt32 value, same, int32_encodeInt32]

end PartitionLowering.LittleEndian

namespace PartitionLowering.Node

open LittleEndian

theorem integers?_int32 (node : Node) (values : List Int32)
    (op : node.op = .constant (values.flatMap encodeInt32)) (elementType : node.elementType = .i32) :
    node.integers? = some (values.map Int32.toInt) := by
  have cut : groups 4 (values.flatMap encodeInt32) = values.map encodeInt32 :=
    groups_flatMap 4 (by decide) _ length_encodeInt32 values
  simp only [integers?, op, elementType, ElementType.integerCode?, Option.map_some, cut, List.map_map]
  refine congrArg some (List.map_congr_left ?_)
  intro value _
  rw [Function.comp_apply, signed_encodeInt32]

theorem integers?_int64 (node : Node) (values : List Int64)
    (op : node.op = .constant (values.flatMap encodeInt64)) (elementType : node.elementType = .i64) :
    node.integers? = some (values.map Int64.toInt) := by
  have cut : groups 8 (values.flatMap encodeInt64) = values.map encodeInt64 :=
    groups_flatMap 8 (by decide) _ length_encodeInt64 values
  simp only [integers?, op, elementType, ElementType.integerCode?, Option.map_some, cut, List.map_map]
  refine congrArg some (List.map_congr_left ?_)
  intro value _
  rw [Function.comp_apply, signed_encodeInt64]

end PartitionLowering.Node
