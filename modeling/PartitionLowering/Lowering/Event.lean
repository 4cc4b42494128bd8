import PartitionLowering.Lowering.Failure
import PartitionLowering.Text.ControlSequence

/-!
The journal of a lowering: what happened, in order, each event with the level at which it is shown.
-/

set_option autoImplicit false

namespace PartitionLowering

/-- Levels from the rarest to the most talkative. -/
inductive Level
  | warn
  | info
  | debug
  | trace
  deriving DecidableEq, Inhabited

namespace Level

def label : Level → String
  | warn => "WARN"
  | info => "INFO"
  | debug => "DEBUG"
  | trace => "TRACE"

def rank : Level → Nat
  | warn => 0
  | info => 1
  | debug => 2
  | trace => 3

/-- Whether a journal kept at this level shows an event of level `other`. -/
def shows (level other : Level) : Bool :=
  decide (other.rank ≤ level.rank)

end Level

inductive Event
  | inputRegistered (index : OperandIndex) (parameter : NodeId) (dims : List Int32)
  | constantRegistered (index : OperandIndex) (node : NodeId) (dims : List Int32)
  | rebound (index : OperandIndex) (previous node : NodeId)
  | nodeLowered (id : Int32) (op : OpCode) (output : OperandIndex) (node : NodeId)
  | axesRenumbered (axes : List Int32)
  | opRejected (op : OpCode) (failure : Failure)
  | nodeRejected (id : Int32) (op : OpCode) (failure : Failure)
  | partitionLowered (scheduled emitted : Nat) (device : String)
  deriving DecidableEq

namespace Event

def level : Event → Level
  | inputRegistered _ _ _ => .debug
  | constantRegistered _ _ _ => .trace
  | rebound _ _ _ => .trace
  | nodeLowered _ _ _ _ => .debug
  | axesRenumbered _ => .trace
  | opRejected _ _ => .debug
  | nodeRejected _ _ _ => .debug
  | partitionLowered _ _ _ => .info

def text : Event → String
  | inputRegistered index parameter dims =>
    "input " ++ int32Text index ++ s!": parameter %{parameter} " ++ int32Listing dims
  | constantRegistered index node dims =>
    "constant " ++ int32Text index ++ s!": %{node} " ++ int32Listing dims
  | rebound index previous node =>
    "operand " ++ int32Text index ++ s!": %{previous} replaced by %{node}"
  | nodeLowered id op output node =>
    "node " ++ int32Text id ++ " (" ++ op.text ++ "): operand " ++ int32Text output ++
      s!" = %{node}"
  | axesRenumbered axes =>
    Recipe.mean.label ++ ": reducing NCHW axes " ++ int32Listing axes
  | opRejected op failure => op.text ++ " not supported: " ++ failure.message
  | nodeRejected id op failure =>
    "node " ++ int32Text id ++ " (" ++ op.text ++ ") not supported: " ++ failure.message
  | partitionLowered scheduled emitted device =>
    s!"lowered {scheduled} nodes into {emitted} IR nodes for " ++ device

def line (event : Event) : String :=
  event.level.label ++ " " ++ event.text

/-- A text whose lines after the first are indented. -/
def indented (text : String) : String :=
  String.ofList (text.toList.flatMap fun c =>
    if c = '\n' then ['\n', ' ', ' ', ' ', ' '] else [c])

/-- The event on an error output: its level between brackets and its text, as far as control
sequences in it leave it visible.  A sequence that does not end hides the end of the line as well. -/
def report (event : Event) : String :=
  ControlSequence.visible ("[" ++ event.level.label ++ "] " ++ indented event.text ++ "\n")

end Event

end PartitionLowering
