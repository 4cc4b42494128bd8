import PartitionLowering.Host.Partition

/-!
The init blob of the transposed convolution with a fused bias: a padding code, the stride along the
width and the stride along the height, each a little-endian 32-bit integer.  Bytes after these twelve
carry no meaning.
-/

set_option autoImplicit false

namespace PartitionLowering

inductive BlobError
  | tooShort (length : Nat)
  | unknownPadding (code : Int32)
  deriving DecidableEq

namespace BlobError

def message : BlobError → String
  | tooShort length => s!"transpose conv custom data is {length} bytes, need 12"
  | unknownPadding code => "unknown padding code " ++ int32Text code

end BlobError

namespace Padding

def code : Padding → Int32
  | unknown => 0
  | same => 1
  | valid => 2

def ofCode? (code : Int32) : Option Padding :=
  all.find? fun padding => padding.code = code

end Padding

namespace TransposeConvOptions

/-- The integer in four bytes of a blob, `offset` bytes from its start. -/
def blobWord (blob : List UInt8) (offset : Nat) : Int32 :=
  LittleEndian.int32 ((blob.drop offset).take 4)

def ofBlob (blob : List UInt8) : Except BlobError TransposeConvOptions :=
  if blob.length < 12 then .error (.tooShort blob.length)
  else match Padding.ofCode? (blobWord blob 0) with
    | none => .error (.unknownPadding (blobWord blob 0))
    | some padding =>
      .ok { padding, strideWidth := blobWord blob 4, strideHeight := blobWord blob 8 }

end TransposeConvOptions

/-- A node of the transposed convolution with a fused bias, its blob decoded. -/
def ScheduledNode.transposeConvBias (id : Int32) (inputs outputs : List OperandIndex)
    (blob : List UInt8) : Except BlobError ScheduledNode := do
  let options ← TransposeConvOptions.ofBlob blob
  return { id, op := .custom OpCode.transposeConvBiasName, inputs, outputs,
           options := .transposeConv options }

end PartitionLowering
