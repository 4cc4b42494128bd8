import PartitionLowering.Host.OperandMap
import PartitionLowering.Bytes.LittleEndian
import PartitionLowering.Size

/-!
Tensors as the host describes them: an element type, dims in the order batch, height, width,
channels, the place of the payload, and the payload itself where there is one.
-/

set_option autoImplicit false

namespace PartitionLowering

inductive TensorType
  | noType
  | float32
  | int32
  | uint8
  | int64
  | string
  | bool
  | int16
  | complex64
  | int8
  | float16
  | float64
  | complex128
  | uint64
  | resource
  | variant
  | uint32
  | uint16
  | int4
  deriving DecidableEq, Inhabited

namespace TensorType

def all : List TensorType :=
  [.noType, .float32, .int32, .uint8, .int64, .string, .bool, .int16, .complex64, .int8, .float16,
    .float64, .complex128, .uint64, .resource, .variant, .uint32, .uint16, .int4]

def key : TensorType → String
  | noType => "no_type"
  | float32 => "float32"
  | int32 => "int32"
  | uint8 => "uint8"
  | int64 => "int64"
  | string => "string"
  | bool => "bool"
  | int16 => "int16"
  | complex64 => "complex64"
  | int8 => "int8"
  | float16 => "float16"
  | float64 => "float64"
  | complex128 => "complex128"
  | uint64 => "uint64"
  | resource => "resource"
  | variant => "variant"
  | uint32 => "uint32"
  | uint16 => "uint16"
  | int4 => "int4"

def label : TensorType → String
  | noType => "NoType"
  | float32 => "Float32"
  | int32 => "Int32"
  | uint8 => "UInt8"
  | int64 => "Int64"
  | string => "String"
  | bool => "Bool"
  | int16 => "Int16"
  | complex64 => "Complex64"
  | int8 => "Int8"
  | float16 => "Float16"
  | float64 => "Float64"
  | complex128 => "Complex128"
  | uint64 => "UInt64"
  | resource => "Resource"
  | variant => "Variant"
  | uint32 => "UInt32"
  | uint16 => "UInt16"
  | int4 => "Int4"

def ofKey? (key : String) : Option TensorType :=
  all.find? fun type => type.key = key

/-- The bits of one element, for types of a fixed width. -/
def bitWidth? : TensorType → Option Nat
  | int4 => some 4
  | uint8 | int8 | bool => some 8
  | int16 | uint16 | float16 => some 16
  | float32 | int32 | uint32 => some 32
  | int64 | uint64 | float64 | complex64 => some 64
  | complex128 => some 128
  | noType | string | resource | variant => none

end TensorType

/-- Where the host keeps a payload.  `mmapRo` marks weights that never change. -/
inductive Allocation
  | mmapRo
  | arenaRw
  | dynamic
  | custom
  deriving DecidableEq, Inhabited

namespace Allocation

def all : List Allocation := [.mmapRo, .arenaRw, .dynamic, .custom]

def key : Allocation → String
  | mmapRo => "mmap_ro"
  | arenaRw => "arena_rw"
  | dynamic => "dynamic"
  | custom => "custom"

def ofKey? (key : String) : Option Allocation :=
  all.find? fun allocation => allocation.key = key

end Allocation

structure Tensor where
  tensorType : TensorType
  dims : List Int32
  allocation : Allocation := .arenaRw
  data : Option (List UInt8) := none
  deriving DecidableEq, Inhabited

namespace Tensor

def constantFloat32 (dims : List Int32) (values : List Float32) : Tensor where
  tensorType := .float32
  dims
  allocation := .mmapRo
  data := some (values.flatMap fun value => LittleEndian.encode 4 value.toBits.toNat)

def constantInt32 (dims : List Int32) (values : List Int32) : Tensor where
  tensorType := .int32
  dims
  allocation := .mmapRo
  data := some (values.flatMap LittleEndian.encodeInt32)

def rank (tensor : Tensor) : Nat :=
  tensor.dims.length

/-- The count of elements; a negative dim, which is not known yet, counts as zero. -/
def elementCount? (tensor : Tensor) : Option Nat :=
  Size.product? (tensor.dims.map fun dim => dim.toInt.toNat)

/-- The bytes that the payload should have. -/
def byteSize? (tensor : Tensor) : Option Nat := do
  let count ← tensor.elementCount?
  let width ← tensor.tensorType.bitWidth?
  Size.packed? count width

/-- The payload of a tensor of 32-bit integers; a rest of fewer than four bytes is left out. -/
def int32Values? (tensor : Tensor) : Option (List Int32) :=
  if tensor.tensorType = .int32 then
    tensor.data.map fun data => (LittleEndian.groups 4 data).map LittleEndian.int32
  else none

end Tensor

abbrev TensorContext := OperandMap Tensor

end PartitionLowering
