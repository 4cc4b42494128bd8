import PartitionLowering.Proofs.Lowering.EmissionAlike
import PartitionLowering.Proofs.Lowering.Registration

/-!
What emission adds to a graph.  It only adds nodes, none of them a parameter, and gives one of the graph
(`Draft.Gains`): `Recipe.gains_of_emit`, `Layout.gains_of_toEngine`, `Layout.gains_of_toHost`.  The
parameters of a graph are told by `Graph.parameterIds`.  A change of layout brings no node of a kind that
works on data (`Layout.brings_of_toEngine`, `Layout.brings_of_toHost`).
-/

set_option autoImplicit false

namespace PartitionLowering

/-! ## Parameters of a graph -/

namespace Graph

variable {graph : Graph}

def parameterIds (graph : Graph) : List NodeId :=
  (List.range graph.size).filter fun id => (graph.node? id).any fun node => node.op = .parameter

theorem mem_parameterIds {id : NodeId} :
    id ∈ graph.parameterIds ↔ ∃ node, graph.node? id = some node ∧ node.op = .parameter := by
  rw [parameterIds, List.mem_filter, List.mem_range]
  constructor
  · rintro ⟨_, parameter⟩
    obtain ⟨node, found, same⟩ := (Option.any_eq_true _ _).1 parameter
    exact ⟨node, found, by simpa using same⟩
  · rintro ⟨node, found, same⟩
    exact ⟨lt_size_of_node? found, by simp [found, same]⟩

theorem pairwise_parameterIds (graph : Graph) : graph.parameterIds.Pairwise (· < ·) :=
  List.pairwise_lt_range.filter _

theorem parameterIds_push (graph : Graph) (op : Op) (inputs : List NodeId) (type : OutputType) :
    (graph.push op inputs type).2.parameterIds =
      graph.parameterIds ++ if op = .parameter then [graph.size] else [] := by
  have earlier : (List.range graph.size).filter (fun id =>
      ((graph.push op inputs type).2.node? id).any fun node => node.op = .parameter) =
        graph.parameterIds := by
    apply List.filter_congr
    intro id below
    rw [(graph.extends_push op inputs type).node?_eq (List.mem_range.1 below)]
  rw [parameterIds, size_push, List.range_succ, List.filter_append, earlier]
  congr 1
  rw [List.filter_singleton, node?_push_self]
  by_cases parameter : op = .parameter
  · simp [parameter]
  · simp [parameter]

end Graph

/-! ## Emission -/

/-- Nodes were added, no parameters among them, and the given one is there. -/
structure Draft.Gains (draft after : Draft) (id : NodeId) : Prop where
  longer : draft.graph.Extends after.graph
  parameters : after.graph.parameterIds = draft.graph.parameterIds
  below : id < after.graph.size

theorem eq_of_same {graph : Graph} {ids ids' : List NodeId}
    (same : List.Forall₂ (fun id id' => id = id' ∧ id < graph.size) ids ids') : ids = ids' := by
  rw [← List.forall₂_eq_eq_eq]
  exact same.imp fun _ _ both => both.1

def Likeness.itself (parameters : List NodeId) : Likeness where
  Graphs graph graph' := graph = graph' ∧ graph.parameterIds = parameters
  Ids graph _ id id' := id = id' ∧ id < graph.size
  mono := by
    rintro graph _ longer _ id _ grown _ ⟨rfl, below⟩
    exact ⟨rfl, Nat.lt_of_lt_of_le below grown.size_le⟩
  typed := by
    rintro graph _ id _ ⟨rfl, _⟩ ⟨rfl, _⟩
    rfl
  infer := by
    rintro graph _ ids ids' ⟨rfl, _⟩ same op
    rw [eq_of_same same]
  push := by
    rintro graph _ ids ids' ⟨rfl, parameters⟩ same op kind type
    cases eq_of_same same
    refine ⟨⟨rfl, ?_⟩, rfl, ?_⟩
    · rw [Graph.parameterIds_push, if_neg kind, List.append_nil, parameters]
    · rw [Graph.size_push]
      exact Nat.lt_succ_self _

theorem Likeness.Emits.gains {step : Emit NodeId} {draft after : Draft} {result : NodeId}
    (emits : (Likeness.itself draft.graph.parameterIds).Emits id
      (Likeness.itself draft.graph.parameterIds).Ids step draft step draft)
    (ran : step draft = .ok result after) : draft.Gains after result := by
  obtain ⟨_, _, ran', steps, _, below⟩ := (emits ⟨rfl, rfl⟩).ok_of_run ran
  exact ⟨steps.left, steps.graphs.2, below⟩

def Registry.Live (registry : Registry) (graph : Graph) : Prop :=
  ∀ index id, registry.node? index = some id → id < graph.size

theorem Recipe.gains_of_emit {recipe : Recipe} {scope : Scope} {inputs : List OperandIndex}
    {options : BuiltinOptions} {draft after : Draft} {result : NodeId}
    (live : scope.registry.Live draft.graph)
    (ran : recipe.emit scope inputs options draft = .ok result after) : draft.Gains after result := by
  have scopes : (Likeness.itself draft.graph.parameterIds).Scopes id recipe.unbound draft.graph
      draft.graph inputs scope scope := by
    refine ⟨fun _ _ => Iff.rfl, ?_, fun _ _ => rfl, ?_⟩
    · intro index _
      rw [id]
      cases bound : scope.registry.node? index with
      | none => exact .none
      | some node => exact .some ⟨rfl, live index node bound⟩
    · intro index _
      rw [id]
      cases scope.tensors.get? index with
      | none => exact .none
      | some tensor => exact .some ⟨rfl, rfl⟩
  have emits := recipe.emits_emit scopes options
  rw [List.map_id] at emits
  exact emits.gains ran

theorem of_op {op : Op} {inputs : List NodeId} {draft after : Draft} {node : Node}
    (ran : Emit.op op inputs draft = .ok node after) :
    ∃ type, draft.graph.infer op inputs = .ok type ∧ node = (draft.graph.push op inputs type).1 ∧
      after.graph = (draft.graph.push op inputs type).2 := by
  rw [Emit.op, run_bind_of_ok (run_get draft)] at ran
  cases outcome : draft.graph.addOp op inputs with
  | error error =>
    rw [outcome] at ran
    cases ran
  | ok added =>
    obtain ⟨type, inferred, rfl⟩ := Graph.addOp_eq_ok.1 outcome
    rw [outcome] at ran
    cases ran
    exact ⟨type, inferred, rfl, rfl⟩

/-! ### Nodes of a kind -/

/-- Operations that provide data or arrange it anew. -/
def Op.arranges : Op → Bool
  | .parameter | .constant _ | .transpose | .reshape _ => true
  | _ => false

/-- A kind of operations that do more with data than arrange it. -/
def Op.Working (kind : Op → Bool) : Prop :=
  ∀ op, op.arranges = true → kind op = false

section Kinds

variable {draft after : Draft} {node : Node}

theorem brings_of_op (kind : Op → Bool) {op : Op} (other : kind op = false) {inputs : List NodeId}
    (ran : Emit.op op inputs draft = .ok node after) :
    draft.graph.Brings kind after.graph [] ∧ after.graph.node? node.id = some node ∧
      draft.graph.infer op inputs = .ok node.outputType := by
  obtain ⟨type, inferred, rfl, graph⟩ := of_op ran
  rw [graph]
  exact ⟨draft.graph.brings_nothing_push other inputs type, Graph.node?_push_self _ _ _ _, inferred⟩

variable {kind : Op → Bool} (working : Op.Working kind)

include working

theorem brings_of_constant {values : List Int32}
    (ran : Emit.int32Constant values draft = .ok node after) :
    draft.graph.Brings kind after.graph [] := by
  cases ran
  exact Graph.brings_nothing_push _ (working _ rfl) _ _

theorem brings_of_longConstant {values : List Int64}
    (ran : Emit.int64Constant values draft = .ok node after) :
    draft.graph.Brings kind after.graph [] := by
  cases ran
  exact Graph.brings_nothing_push _ (working _ rfl) _ _

theorem brings_of_transpose {source : NodeId} {order : List Int64}
    (ran : Emit.transpose source order draft = .ok node after) :
    draft.graph.Brings kind after.graph [] := by
  unfold Emit.transpose at ran
  obtain ⟨constant, first, added, ran⟩ := run_bind_eq_ok.1 ran
  exact (brings_of_longConstant working added).trans (brings_of_op kind (working _ rfl) ran).1

end Kinds

/-- A transpose stands behind the constant of its order. -/
theorem of_transpose {source : NodeId} {order : List Int64} {draft after : Draft} {node : Node}
    (ran : Emit.transpose source order draft = .ok node after) :
    draft.graph.Extends after.graph ∧ ∃ constant shape elementType,
      after.graph.node? node.id = some ⟨node.id, .transpose, [source, constant], shape, elementType⟩ ∧
        after.graph.integers? constant = some (order.map Int64.toInt) := by
  unfold Emit.transpose at ran
  obtain ⟨_, first, added, ran⟩ := run_bind_eq_ok.1 ran
  cases added
  obtain ⟨type, _, rfl, graph⟩ := of_op ran
  have grown := Graph.extends_push draft.graph
    (.constant (order.flatMap LittleEndian.encodeInt64)) [] ([order.length], .i64)
  rw [graph]
  refine ⟨grown.trans (Graph.extends_push _ _ _ _), draft.graph.size, type.1, type.2, ?_, ?_⟩
  · exact Graph.node?_push_self _ _ _ _
  · have held := Graph.node?_push_self draft.graph
      (.constant (order.flatMap LittleEndian.encodeInt64)) [] ([order.length], .i64)
    have found := (Graph.extends_push (draft.graph.addInt64Constant order).2 .transpose
      [source, draft.graph.size] type).node? held
    have integers := Node.integers?_int64 (draft.graph.addInt64Constant order).1 order rfl rfl
    exact (congrArg (Option.bind · Node.integers?) found).trans integers

namespace Layout

variable {draft after : Draft} {source result : NodeId}

theorem gains_of_toEngine {dims : List Int32} (below : source < draft.graph.size)
    (ran : toEngine dims source draft = .ok result after) : draft.Gains after result := by
  have there : draft.graph.contains source = true := decide_eq_true below
  have same : (Likeness.itself draft.graph.parameterIds).Ids draft.graph draft.graph source source :=
    ⟨rfl, below⟩
  exact (Likeness.emits_toEngine same there there dims).gains ran

theorem gains_of_toHost (below : source < draft.graph.size)
    (ran : toHost source draft = .ok result after) : draft.Gains after result := by
  have there : draft.graph.contains source = true := decide_eq_true below
  have same : (Likeness.itself draft.graph.parameterIds).Ids draft.graph draft.graph source source :=
    ⟨rfl, below⟩
  exact (Likeness.emits_toHost same there).gains ran

/-- A change to the engine's layout that succeeds.  The source is an image, or a reshape makes it one; the
result is a transpose of the image. -/
theorem steps_of_toEngine {dims : List Int32} (ran : toEngine dims source draft = .ok result after) :
    ∃ image middle,
      (dims.length = 4 ∧ image = source ∧ middle = draft ∨
        ∃ pattern first reshaped, Emit.int32Constant (imageDims dims) draft = .ok pattern first ∧
          Emit.op (.reshape false) [source, pattern.id] first = .ok reshaped middle ∧
          reshaped.id = image) ∧
      ∃ order last node, Emit.int32Constant (toEngineOrder.map Int64.toInt32) middle = .ok order last ∧
        Emit.op .transpose [image, order.id] last = .ok node after ∧ node.id = result := by
  -- the transpose comes last, whether or not a reshape stands before it
  have finish : ∀ {middle : Draft} {image : NodeId},
      (do
        let order ← Emit.int32Constant (toEngineOrder.map Int64.toInt32)
        let result ← Emit.op .transpose [image, order.id]
        return result.id : Emit NodeId) middle = .ok result after →
      ∃ order last node, Emit.int32Constant (toEngineOrder.map Int64.toInt32) middle = .ok order last ∧
        Emit.op .transpose [image, order.id] last = .ok node after ∧ node.id = result := by
    intro middle image ran
    obtain ⟨order, last, added, ran⟩ := run_bind_eq_ok.1 ran
    obtain ⟨node, _, transposed, ran⟩ := run_bind_eq_ok.1 ran
    cases ran
    exact ⟨order, last, node, added, transposed, rfl⟩
  unfold toEngine at ran
  rw [run_bind_of_ok (run_get draft)] at ran
  by_cases there : draft.graph.contains source
  · by_cases scalar : dims = []
    · rw [if_pos there, if_pos scalar] at ran
      cases ran
    by_cases high : 4 < dims.length
    · rw [if_pos there, if_neg scalar, if_pos high] at ran
      cases ran
    rw [if_pos there, if_neg scalar, if_neg high] at ran
    by_cases short : dims.length < 4
    · rw [if_pos short] at ran
      obtain ⟨pattern, first, added, ran⟩ := run_bind_eq_ok.1 ran
      obtain ⟨reshaped, middle, shaped, ran⟩ := run_bind_eq_ok.1 ran
      exact ⟨_, middle, .inr ⟨pattern, first, reshaped, added, shaped, rfl⟩, finish ran⟩
    · rw [if_neg short] at ran
      exact ⟨source, draft, .inl ⟨by omega, rfl, rfl⟩, finish ran⟩
  · rw [if_neg there] at ran
    cases ran

/-- A change back to the host's layout that succeeds is one transpose. -/
theorem steps_of_toHost (ran : toHost source draft = .ok result after) :
    ∃ node, Emit.transpose source toHostOrder draft = .ok node after ∧ node.id = result := by
  unfold toHost at ran
  rw [run_bind_of_ok (run_get draft)] at ran
  cases found : draft.graph.node? source with
  | none =>
    rw [found] at ran
    cases ran
  | some image =>
    rw [found] at ran
    dsimp only at ran
    by_cases four : image.rank = 4
    · rw [if_pos four] at ran
      obtain ⟨node, _, transposed, ran⟩ := run_bind_eq_ok.1 ran
      cases ran
      exact ⟨node, transposed, rfl⟩
    · rw [if_neg four] at ran
      cases ran

/-- A node that is given back in the host's layout: a transpose of it by a constant order. -/
theorem of_toHost (ran : toHost source draft = .ok result after) :
    draft.graph.Extends after.graph ∧ ∃ order shape elementType,
      after.graph.node? result = some ⟨result, .transpose, [source, order], shape, elementType⟩ ∧
        after.graph.integers? order = some [0, 2, 3, 1] := by
  obtain ⟨node, transposed, rfl⟩ := steps_of_toHost ran
  exact of_transpose transposed

/-! ### Nodes of a kind -/

section Kinds

variable {kind : Op → Bool} (working : Op.Working kind)

include working

theorem brings_of_toEngine {dims : List Int32} (ran : toEngine dims source draft = .ok result after) :
    draft.graph.Brings kind after.graph [] := by
  obtain ⟨image, middle, before, order, last, node, added, transposed, rfl⟩ := steps_of_toEngine ran
  have late := (brings_of_constant working added).trans (brings_of_op kind (working _ rfl) transposed).1
  rcases before with ⟨_, rfl, rfl⟩ | ⟨pattern, first, reshaped, added', shaped, rfl⟩
  · exact late
  · have early := (brings_of_constant working added').trans
      (brings_of_op kind (working _ rfl) shaped).1
    exact early.trans late

theorem brings_of_toHost (ran : toHost source draft = .ok result after) :
    draft.graph.Brings kind after.graph [] := by
  obtain ⟨node, transposed, rfl⟩ := steps_of_toHost ran
  exact brings_of_transpose working transposed

end Kinds

end Layout

end PartitionLowering
