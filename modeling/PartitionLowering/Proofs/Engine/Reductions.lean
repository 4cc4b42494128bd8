import PartitionLowering.Proofs.Engine.Arena
import PartitionLowering.Proofs.Engine.Axes

/-!
Reductions over sets of axes.  A mean takes a list of entries, and each entry counts to an axis of the data, from
the front or from the end.  What becomes of the shape depends on which axes are counted to and on nothing else
in the list (`Graph.meanType_eq`).  Means in a row that keep the rank are one mean over all their entries
(`Graph.meanType_twice`).  Main statement: `Graph.mean_over_set`.
-/

set_option autoImplicit false

namespace PartitionLowering

/-! ## Entries and axes -/

namespace Shape

def InRange (entries : List Int) (rank : Nat) : Prop :=
  ∀ entry ∈ entries, -rank ≤ entry ∧ entry < rank

def countedAxes (entries : List Int) (rank : Nat) : List Nat :=
  entries.map fun entry => countedAxis entry rank

variable {entries entries' : List Int} {rank : Nat}

theorem mapM_resolveAxis_eq_ok {axes : List Nat} :
    entries.mapM (fun entry => resolveAxis entry rank) = .ok axes ↔
      InRange entries rank ∧ axes = countedAxes entries rank := by
  induction entries generalizing axes with
  | nil => simp [InRange, countedAxes, eq_comm]
  | cons entry rest ih =>
    rw [List.mapM_cons, resolveAxis_eq, InRange, List.forall_mem_cons]
    by_cases inside : -(rank : Int) ≤ entry ∧ entry < rank
    · rw [if_pos inside, ok_bind, bind_eq_ok]
      simp only [ih, pure_eq_ok, Except.ok.injEq]
      constructor
      · rintro ⟨_, ⟨range, rfl⟩, rfl⟩
        exact ⟨⟨inside, range⟩, rfl⟩
      · rintro ⟨⟨_, range⟩, rfl⟩
        exact ⟨_, ⟨range, rfl⟩, rfl⟩
    · simp [inside]

end Shape

/-! ## Means -/

theorem Op.infer_reduceMean {keepDims : Bool} {data listed : Node} {entries : List Int}
    (read : listed.integers? = some entries) :
    (Op.reduceMean keepDims).infer [data, listed] =
      (entries.mapM fun entry => Shape.resolveAxis entry data.rank) >>= fun axes =>
        .ok (Inference.reduceAxes data.shape axes keepDims, data.elementType) := by
  simp only [Op.infer, Inference.reduceMean, Inference.twoInputs, Inference.integersAt, read, ok_bind]
  rfl

namespace Graph

/-- The type of the mean that is added for two nodes. -/
def meanType (graph : Graph) (keepDims : Bool) (data listed : NodeId) : Except ShapeError OutputType :=
  (graph.addOp (.reduceMean keepDims) [data, listed]).map fun added => added.1.outputType

theorem meanType_eq_infer (graph : Graph) (keepDims : Bool) (data listed : NodeId) :
    graph.meanType keepDims data listed = graph.infer (.reduceMean keepDims) [data, listed] := by
  rw [meanType, addOp]
  cases graph.infer (.reduceMean keepDims) [data, listed] <;> rfl

section Means

variable {graph : Graph} {data listed : NodeId} {node : Node} {entries : List Int}
  (found : graph.node? data = some node) (read : graph.integers? listed = some entries)

include found read

theorem infer_mean (keepDims : Bool) :
    graph.infer (.reduceMean keepDims) [data, listed] =
      (entries.mapM fun entry => Shape.resolveAxis entry node.rank) >>= fun axes =>
        .ok (Inference.reduceAxes node.shape axes keepDims, node.elementType) := by
  obtain ⟨holder, held, integers⟩ := Option.bind_eq_some_iff.1 read
  have resolved : graph.resolve [data, listed] = .ok [node, holder] :=
    resolve_eq_ok.2 (.cons found (.cons held .nil))
  rw [infer_of_resolve resolved, Op.infer_reduceMean integers]

theorem exists_mean_iff (keepDims : Bool) :
    (∃ added, graph.addOp (.reduceMean keepDims) [data, listed] = .ok added) ↔
      Shape.InRange entries node.rank := by
  simp only [addOp_eq_ok, infer_mean found read, bind_eq_ok, Shape.mapM_resolveAxis_eq_ok]
  constructor
  · rintro ⟨_, _, ⟨_, ⟨range, _⟩, _⟩, _⟩
    exact range
  · intro range
    exact ⟨_, _, ⟨_, ⟨range, rfl⟩, rfl⟩, rfl⟩

/-- The axes that are counted to shrink to one element each, or go. -/
theorem meanType_eq (range : Shape.InRange entries node.rank) :
    graph.meanType true data listed =
        .ok (Host.collapse (Shape.countedAxes entries node.rank) node.shape, node.elementType) ∧
      graph.meanType false data listed =
        .ok (Host.drop (Shape.countedAxes entries node.rank) node.shape, node.elementType) := by
  have counted := Shape.mapM_resolveAxis_eq_ok.2 ⟨range, rfl⟩
  rw [meanType_eq_infer, meanType_eq_infer, infer_mean found read, infer_mean found read, counted,
    ok_bind, ok_bind, Inference.reduceAxes_keep, Inference.reduceAxes_drop]
  exact ⟨rfl, rfl⟩

/-- A mean of a mean is the mean over the entries of both, or fails as that one does. -/
theorem meanType_twice {longer after : Graph} {mean : Node}
    (added : graph.addOp (.reduceMean true) [data, listed] = .ok (mean, longer))
    (grown : longer.Extends after) {listed' both : NodeId} {entries' : List Int}
    (read' : after.integers? listed' = some entries')
    (readBoth : after.integers? both = some (entries ++ entries')) :
    after.meanType true mean.id listed' = after.meanType true data both := by
  have range := (exists_mean_iff found read true).1 ⟨_, added⟩
  obtain ⟨inferred, longer', foundMean⟩ := of_addOp added
  rw [← meanType_eq_infer, (meanType_eq found read range).1, Except.ok.injEq] at inferred
  have shape : mean.shape = Host.collapse (Shape.countedAxes entries node.rank) node.shape :=
    congrArg Prod.fst inferred.symm
  have elementType : mean.elementType = node.elementType := congrArg Prod.snd inferred.symm
  have rank : mean.rank = node.rank := by
    rw [Node.rank, shape, Host.collapse, List.length_mapIdx, Node.rank]
  have second := infer_mean (grown.node? foundMean) read' true
  have once := infer_mean ((longer'.trans grown).node? found) readBoth true
  rw [rank, shape, elementType] at second
  rw [List.mapM_append, Shape.mapM_resolveAxis_eq_ok.2 ⟨range, rfl⟩, ok_bind] at once
  rw [meanType_eq_infer, meanType_eq_infer, second, once]
  cases entries'.mapM fun entry => Shape.resolveAxis entry node.rank with
  | error error => rfl
  | ok axes => simp only [ok_bind, pure_eq_ok, Inference.reduceAxes_keep, Host.collapse_collapse]

end Means

/-- A mean is added exactly where its entries are in range, and treats them as a set of axes: with the rank kept
each of them has one element, and without it these axes are left out; entries that count to the same axes
make the same type.  Means in a row that keep the rank are the mean over the entries of both. -/
theorem mean_over_set {graph : Graph} {data listed : NodeId} {node : Node} {entries : List Int}
    (found : graph.node? data = some node) (read : graph.integers? listed = some entries) :
    (∀ keepDims, (∃ added, graph.addOp (.reduceMean keepDims) [data, listed] = .ok added) ↔
      Shape.InRange entries node.rank) ∧
    (Shape.InRange entries node.rank →
      let kept := Host.collapse (Shape.countedAxes entries node.rank) node.shape
      graph.meanType true data listed = .ok (kept, node.elementType) ∧
      graph.meanType false data listed =
        .ok (Host.drop (Shape.countedAxes entries node.rank) kept, node.elementType)) ∧
    (∀ listed' entries', graph.integers? listed' = some entries' →
      Shape.InRange entries node.rank → Shape.InRange entries' node.rank →
      (∀ axis, axis ∈ Shape.countedAxes entries' node.rank ↔
        axis ∈ Shape.countedAxes entries node.rank) →
      ∀ keepDims, graph.meanType keepDims data listed' = graph.meanType keepDims data listed) ∧
    ∀ mean longer after, graph.addOp (.reduceMean true) [data, listed] = .ok (mean, longer) →
      longer.Extends after →
      ∀ listed' both entries', after.integers? listed' = some entries' →
        after.integers? both = some (entries ++ entries') →
        after.meanType true mean.id listed' = after.meanType true data both := by
  refine ⟨exists_mean_iff found read, ?_, ?_, ?_⟩
  · intro range
    dsimp only
    rw [Host.drop_collapse]
    exact meanType_eq found read range
  · intro listed' entries' read' range range' same keepDims
    obtain ⟨kept, dropped⟩ := meanType_eq found read range
    obtain ⟨kept', dropped'⟩ := meanType_eq found read' range'
    cases keepDims with
    | true => rw [kept, kept', Host.collapse_congr same]
    | false => rw [dropped, dropped', Host.drop_congr same]
  · intro mean longer after added grown listed' both entries' read' readBoth
    exact meanType_twice found read added grown read' readBoth

def lastAxes : Graph :=
  afterCalls [.parameter .f32 [1, 8, 4, 5], .int32Constant [2], .int32Constant [-1], .int32Constant [2, -1]]

/-- The rows are averaged, and then the columns. -/
theorem mean_over_set_rows :
    lastAxes.node? 0 = some ⟨0, .parameter, [], [1, 8, 4, 5], .f32⟩ ∧
      lastAxes.integers? 1 = some [2] ∧
      lastAxes.meanType true 0 1 = .ok ([1, 8, 1, 5], .f32) ∧
      lastAxes.meanType false 0 1 = .ok ([1, 8, 5], .f32) ∧
      ∃ mean longer, lastAxes.addOp (.reduceMean true) [0, 1] = .ok (mean, longer) ∧
        longer.meanType true mean.id 2 = longer.meanType true 0 3 := by
  have found : lastAxes.node? 0 = some ⟨0, .parameter, [], [1, 8, 4, 5], .f32⟩ := rfl
  have read : lastAxes.integers? 1 = some [2] := by decide
  obtain ⟨exactly, types, _, twice⟩ := mean_over_set found read
  have range : Shape.InRange [2] 4 := by simp [Shape.InRange]
  obtain ⟨⟨mean, longer⟩, added⟩ := (exactly true).2 range
  have grown := (of_addOp added).2.1
  have read' : longer.integers? 2 = some [-1] := grown.integers? (by decide)
  have readBoth : longer.integers? 3 = some [2, -1] := grown.integers? (by decide)
  exact ⟨found, read, (types range).1, (types range).2, mean, longer, added,
    twice mean longer longer added (.refl longer) 2 3 [-1] read' readBoth⟩

end Graph

end PartitionLowering
