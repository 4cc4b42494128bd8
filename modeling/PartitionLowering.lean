import PartitionLowering.Bytes.LittleEndian
import PartitionLowering.CommandLine
import PartitionLowering.Decimal.BinaryFormat
import PartitionLowering.Decimal.Numeral
import PartitionLowering.Decimal.Shortest
import PartitionLowering.Decimal.Style
import PartitionLowering.Decimal.Value
import PartitionLowering.Engine.ElementType
import PartitionLowering.Engine.Graph
import PartitionLowering.Engine.Inference
import PartitionLowering.Engine.Model
import PartitionLowering.Engine.Node
import PartitionLowering.Engine.Op
import PartitionLowering.Engine.Shape
import PartitionLowering.Engine.ShapeError
import PartitionLowering.Engine.Window
import PartitionLowering.Files
import PartitionLowering.Fixture.Reader
import PartitionLowering.Fixture.Writer
import PartitionLowering.Host.OperandMap
import PartitionLowering.Host.Operator
import PartitionLowering.Host.Options
import PartitionLowering.Host.Partition
import PartitionLowering.Host.Tensor
import PartitionLowering.Host.TransposeConvBlob
import PartitionLowering.Json.Basic
import PartitionLowering.Json.Literal
import PartitionLowering.Json.Reader
import PartitionLowering.Json.Record
import PartitionLowering.Json.Writer
import PartitionLowering.Lowering.Builder
import PartitionLowering.Lowering.Draft
import PartitionLowering.Lowering.Emission
import PartitionLowering.Lowering.Emission.Convolution
import PartitionLowering.Lowering.Emission.Elementwise
import PartitionLowering.Lowering.Emission.Pooling
import PartitionLowering.Lowering.Emission.Rearrangement
import PartitionLowering.Lowering.Emission.Reduction
import PartitionLowering.Lowering.Event
import PartitionLowering.Lowering.Failure
import PartitionLowering.Lowering.Fusion
import PartitionLowering.Lowering.Layout
import PartitionLowering.Lowering.Partition
import PartitionLowering.Lowering.Recipe
import PartitionLowering.Lowering.Registry
import PartitionLowering.Lowering.Support
import PartitionLowering.Main
import PartitionLowering.Proofs.Bytes.Decoding
import PartitionLowering.Proofs.Engine.Arena
import PartitionLowering.Proofs.Running
import PartitionLowering.Proofs.Engine.Extension
import PartitionLowering.Settings
import PartitionLowering.Size
import PartitionLowering.Text.Column
import PartitionLowering.Text.ControlSequence
import PartitionLowering.Text.Listing
import PartitionLowering.Proofs.Engine.Reading
import PartitionLowering.Proofs.Engine.Growth
import PartitionLowering.Proofs.Lowering.Typing
import PartitionLowering.Proofs.Lowering.Outcome
import PartitionLowering.Proofs.Lowering.Emission
import PartitionLowering.Proofs.Engine.Layouts
import PartitionLowering.Proofs.Lowering.Registration
import PartitionLowering.Proofs.Lowering.Acceptance
import PartitionLowering.Proofs.Lowering.Weights
import PartitionLowering.Proofs.Lowering.WeightRoutes
import PartitionLowering.Proofs.Engine.Broadcasting
import PartitionLowering.Proofs.Networks.Mirror
import PartitionLowering.Proofs.Lowering.Images
import PartitionLowering.Proofs.Networks.Elementwise
import PartitionLowering.Proofs.Lowering.ImageConvolutions
import PartitionLowering.Proofs.Networks.Images
import PartitionLowering.Proofs.Lowering.SideBySide
import PartitionLowering.Proofs.Lowering.EmissionAlike
import PartitionLowering.Proofs.Engine.Payloads
import PartitionLowering.Proofs.Networks.Counterpart
import PartitionLowering.Proofs.Lowering.Gains
import PartitionLowering.Proofs.Networks.Renaming
import PartitionLowering.Proofs.Networks.WeightValues
import PartitionLowering.Proofs.Networks.Bindings
import PartitionLowering.Proofs.Networks.Exchange
import PartitionLowering.Proofs.Engine.Extents
import PartitionLowering.Proofs.Engine.Inference
import PartitionLowering.Proofs.Engine.Regularity
import PartitionLowering.Proofs.Lowering.Conduct
import PartitionLowering.Proofs.Lowering.EmissionConduct
import PartitionLowering.Proofs.Lowering.Calls
import PartitionLowering.Proofs.Lowering.WellFormed
import PartitionLowering.Proofs.Lowering.Agreement
import PartitionLowering.Proofs.Lowering.SupportTable
import PartitionLowering.Proofs.Networks.SingleNode
import PartitionLowering.Proofs.Engine.Axes
import PartitionLowering.Proofs.Networks.Means
import PartitionLowering.Proofs.Engine.Patterns
import PartitionLowering.Proofs.Networks.Reshapes
import PartitionLowering.Proofs.Networks.WeightedArithmetic
import PartitionLowering.Proofs.Networks.Concatenations
import PartitionLowering.Proofs.Networks.Refusals
import PartitionLowering.Proofs.Networks.FilterLayouts
import PartitionLowering.Proofs.Json.Numerals
import PartitionLowering.Proofs.Json.Literals
import PartitionLowering.Proofs.Json.Texts
import PartitionLowering.Proofs.Json.Records
import PartitionLowering.Proofs.Fixture.Options
import PartitionLowering.Proofs.Fixture.RoundTrip
import PartitionLowering.Proofs.Text.Atoms
import PartitionLowering.Proofs.Engine.Dumps
import PartitionLowering.Proofs.Lowering.Additions
import PartitionLowering.Proofs.Lowering.Parameters
import PartitionLowering.Proofs.Lowering.Flags
import PartitionLowering.Proofs.Lowering.Biases
import PartitionLowering.Proofs.Engine.Windows
import PartitionLowering.Proofs.Engine.BroadcastLaws
import PartitionLowering.Proofs.Engine.PatternSolutions
import PartitionLowering.Proofs.Networks.Softmaxes
import PartitionLowering.Proofs.Engine.Groups
import PartitionLowering.Proofs.Lowering.GraphInputs
import PartitionLowering.Proofs.Engine.Contents
import PartitionLowering.Proofs.Lowering.ElementMoves
import PartitionLowering.Proofs.Lowering.DepthwiseGroups
import PartitionLowering.Proofs.Engine.IntegerConstants
import PartitionLowering.Proofs.Lowering.WeightPayloads
import PartitionLowering.Proofs.Engine.Permutations
import PartitionLowering.Proofs.Engine.Reductions
import PartitionLowering.Proofs.Engine.Joins
import PartitionLowering.Proofs.Engine.WindowCounts
import PartitionLowering.Proofs.Host.Blobs
