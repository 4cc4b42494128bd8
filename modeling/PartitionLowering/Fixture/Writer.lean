import PartitionLowering.Host.Partition
import PartitionLowering.Json.Writer
import PartitionLowering.Settings

/-!
The JSON form of tensors, nodes, partitions and settings.  Every field is written.  The format does
not say with how many digits a real parameter is written, so `toJsonWith` takes that as an argument.
`toJson` writes a `beta` as the binary64 value that it widens to; one that is not finite has no
numeral and becomes `null`.
-/

set_option autoImplicit false

namespace PartitionLowering

def Json.ofInt32 (value : Int32) : Json :=
  .ofInt value.toInt

def Json.ofInt32s (values : List Int32) : Json :=
  .arr (values.map .ofInt32)

def Json.ofBytes (bytes : List UInt8) : Json :=
  .arr (bytes.map fun byte => .ofNat byte.toNat)

def Json.ofFloat (value : Float) : Json :=
  match Style.fixture.numeral? .binary64 value.toBits.toNat with
  | some numeral => .num numeral
  | none => .null

def Json.ofFloat32 (value : Float32) : Json :=
  .ofFloat (BinaryFormat.widen value)

def OptionValue.toJsonWith (real : Float32 → Json) : OptionValue → Json
  | .padding value => .ofString value.key
  | .activation value => .ofString value.key
  | .integer value => .ofInt32 value
  | .flag value => .bool value
  | .real value => real value
  | .integers values => .ofInt32s values

/-- The members of a record of options. -/
def OptionFields.membersWith (real : Float32 → Json) (fields : OptionFields) :
    List (String × Json) :=
  fields.map fun field => (field.1, field.2.toJsonWith real)

def OptionFields.toJson (fields : OptionFields) : Json :=
  .record (OptionFields.membersWith .ofFloat32 fields)

def BuiltinOptions.toJsonWith (real : Float32 → Json) (options : BuiltinOptions) : Json :=
  .record (("type", .ofString options.key) :: OptionFields.membersWith real options.fields)

def BuiltinOptions.toJson (options : BuiltinOptions) : Json :=
  options.toJsonWith .ofFloat32

def OpCode.toJson : OpCode → Json
  | .builtin operator => .record [("builtin", .ofString operator.key)]
  | .custom name => .record [("custom", .ofString name)]

def Tensor.toJson (tensor : Tensor) : Json :=
  .record
    [("tensor_type", .ofString tensor.tensorType.key),
      ("dims", .ofInt32s tensor.dims),
      ("allocation", .ofString tensor.allocation.key),
      ("data", tensor.data.elim .null .ofBytes)]

def TensorContext.toJson (tensors : TensorContext) : Json :=
  .record (tensors.entries.map fun entry => (int32Text entry.1, entry.2.toJson))

def ScheduledNode.toJsonWith (real : Float32 → Json) (node : ScheduledNode) : Json :=
  .record
    [("id", .ofInt32 node.id),
      ("op", node.op.toJson),
      ("inputs", .ofInt32s node.inputs),
      ("outputs", .ofInt32s node.outputs),
      ("options", node.options.toJsonWith real)]

def ScheduledNode.toJson (node : ScheduledNode) : Json :=
  node.toJsonWith .ofFloat32

def Partition.toJsonWith (real : Float32 → Json) (partition : Partition) : Json :=
  .record
    [("inputs", .ofInt32s partition.inputs),
      ("outputs", .ofInt32s partition.outputs),
      ("nodes", .arr (partition.nodes.map (ScheduledNode.toJsonWith real)))]

def Fixture.toJsonWith (real : Float32 → Json) (fixture : Fixture) : Json :=
  .record
    [("tensors", fixture.tensors.toJson), ("subgraph", fixture.partition.toJsonWith real)]

def Fixture.toJson (fixture : Fixture) : Json :=
  fixture.toJsonWith .ofFloat32

def Settings.toJson (settings : Settings) : Json :=
  .record
    [("debug_level", .ofNat settings.debugLevel.toNat),
      ("device", .ofString settings.device),
      ("plugins_path", .ofString settings.pluginsPath)]

end PartitionLowering
