/-!
Little-endian integers: the least significant byte comes first.  `encode` writes a number in a fixed
count of bytes, `unsigned` and `signed` read a group of bytes back, and `groups` cuts a payload into
groups of one width, leaving out a short rest.
-/

set_option autoImplicit false

namespace PartitionLowering.LittleEndian

/-- The `width` low bytes of `value`, least significant first. -/
def encode : Nat → Nat → List UInt8
  | 0, _ => []
  | width + 1, value => UInt8.ofNat value :: encode width (value / 256)

/-- The number that `bytes` denote without a sign. -/
def unsigned : List UInt8 → Nat
  | [] => 0
  | byte :: rest => byte.toNat + 256 * unsigned rest

/-- The number that `bytes` denote in two's complement. -/
def signed (bytes : List UInt8) : Int :=
  let value := unsigned bytes
  let range := Nat.pow 256 bytes.length
  if 2 * value < range then value else value - range

/-- The whole groups of `width` bytes, in order. -/
def groups (width : Nat) (bytes : List UInt8) : List (List UInt8) :=
  (List.range (bytes.length / width)).map fun i => (bytes.drop (i * width)).take width

def encodeInt32 (value : Int32) : List UInt8 :=
  encode 4 value.toUInt32.toNat

def encodeInt64 (value : Int64) : List UInt8 :=
  encode 8 value.toUInt64.toNat

def int32 (bytes : List UInt8) : Int32 :=
  Int32.ofInt (signed bytes)

@[simp] theorem length_encode (width value : Nat) : (encode width value).length = width := by
  induction width generalizing value with
  | zero => rfl
  | succ width ih => simp [encode, ih]

/-- Reading what was written gives the value modulo the range of the width. -/
theorem unsigned_encode (width value : Nat) :
    unsigned (encode width value) = value % Nat.pow 256 width := by
  induction width generalizing value with
  | zero => exact (Nat.mod_one value).symm
  | succ width ih =>
    have low : (UInt8.ofNat value).toNat = value % 256 := by simp
    rw [encode, unsigned, ih, low]
    change _ = value % (Nat.pow 256 width * 256)
    rw [Nat.mul_comm (Nat.pow 256 width) 256, Nat.mod_mul]

@[simp] theorem length_groups (width : Nat) (bytes : List UInt8) :
    (groups width bytes).length = bytes.length / width := by
  simp [groups]

end PartitionLowering.LittleEndian
