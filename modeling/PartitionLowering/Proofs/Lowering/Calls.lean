import PartitionLowering.Proofs.Lowering.EmissionConduct
import PartitionLowering.Proofs.Lowering.Gains

/-!
Calls of a builder.  A step `Proceeds` when a failure leaves all but the graph as it was, and the graph
developed; there is one such lemma for each of the four calls.  Main statement: `call_atomic`, on what a
call changes in any builder; a call that fails changes nothing but the graph, and that only at its end.
-/

set_option autoImplicit false

namespace PartitionLowering

namespace Builder

/-! ## Steps -/

structure Commits (before after : Builder) (registry : Registry) (parameters results : List NodeId) :
    Prop where
  develops : before.graph.Develops after.graph
  registry_eq : after.registry = registry
  parameters_eq : after.parameters = before.parameters ++ parameters
  results_eq : after.results = before.results ++ results

abbrev Spares (before after : Builder) : Prop :=
  before.Commits after before.registry [] []

theorem Spares.refl (builder : Builder) : builder.Spares builder :=
  ⟨.refl, rfl, (List.append_nil _).symm, (List.append_nil _).symm⟩

theorem Spares.trans {first second third : Builder} (early : first.Spares second)
    (late : second.Spares third) : first.Spares third where
  develops := Relation.ReflTransGen.trans early.develops late.develops
  registry_eq := late.registry_eq.trans early.registry_eq
  parameters_eq := by
    rw [late.parameters_eq, early.parameters_eq, List.append_nil]
  results_eq := by
    rw [late.results_eq, early.results_eq, List.append_nil]

theorem spares_of_draft {builder : Builder} {draft : Draft}
    (develops : builder.graph.Develops draft.graph) : builder.Spares { builder with draft } :=
  ⟨develops, rfl, (List.append_nil _).symm, (List.append_nil _).symm⟩

section Steps

variable {α β : Type} {start builder : Builder}

/-- A step that fails has spared the builder from which it started. -/
def Proceeds (start : Builder) (Shows : α → Builder → Prop) (step : Build α) (builder : Builder) : Prop :=
  match step builder with
  | .ok value after => Shows value after
  | .error _ after => start.Spares after

theorem Proceeds.bind {Shows : α → Builder → Prop} {Shows' : β → Builder → Prop} {step : Build α}
    {next : α → Build β} (first : Proceeds start Shows step builder)
    (rest : ∀ value after, Shows value after → Proceeds start Shows' (next value) after) :
    Proceeds start Shows' (step >>= next) builder := by
  rw [Proceeds] at first
  cases ran : step builder with
  | error failure after =>
    rw [ran] at first
    rw [Proceeds, run_bind_of_error ran]
    exact first
  | ok value after =>
    rw [ran] at first
    have later := rest value after first
    rw [Proceeds] at later ⊢
    rw [run_bind_of_ok ran]
    exact later

theorem Proceeds.imp {Shows Shows' : α → Builder → Prop} {step : Build α}
    (proceeds : Proceeds start Shows step builder)
    (tells : ∀ value after, Shows value after → Shows' value after) :
    Proceeds start Shows' step builder := by
  rw [Proceeds] at proceeds ⊢
  cases ran : step builder with
  | error failure after =>
    rw [ran] at proceeds
    exact proceeds
  | ok value after =>
    rw [ran] at proceeds
    exact tells value after proceeds

theorem proceeds_get {Shows : α → Builder → Prop} {next : Builder → Build α}
    (rest : Proceeds start Shows (next builder) builder) :
    Proceeds start Shows (get >>= next) builder := by
  rw [Proceeds, run_bind_of_ok (run_get builder)]
  exact rest

variable (spares : start.Spares builder)

include spares

theorem proceeds_lift (lookup : Except Failure α) :
    Proceeds start (fun value after => lookup = .ok value ∧ builder = after) (liftM lookup) builder := by
  cases outcome : lookup with
  | error failure =>
    rw [Proceeds, run_lift_error rfl]
    exact spares
  | ok value =>
    rw [Proceeds, run_lift_ok rfl]
    exact ⟨rfl, rfl⟩

theorem proceeds_emitting {Fails : Failure → Prop} {Shows : Graph → α → Prop} {step : Emit α}
    (conducts : Conducts Fails Shows step builder.draft) :
    Proceeds start
      (fun value after => builder.Spares after ∧ Shows after.graph value ∧
        step builder.draft = .ok value after.draft)
      (emitting step) builder := by
  rw [Conducts] at conducts
  cases ran : step builder.draft with
  | error failure draft =>
    rw [ran] at conducts
    rw [Proceeds, emitting_of_error ran]
    exact spares.trans (spares_of_draft conducts.1)
  | ok value draft =>
    rw [ran] at conducts
    rw [Proceeds, emitting_of_ok ran]
    exact ⟨spares_of_draft conducts.1, conducts.2, rfl⟩

end Steps

/-! ## Operands -/

theorem positive_of_layout {dims : List Int32} {shape : Shape} (shaped : Layout.shape dims = .ok shape) :
    shape.Positive := by
  obtain ⟨positive, rfl⟩ := Layout.shape_eq_ok.1 shaped
  intro extent member
  obtain ⟨dim, inside, rfl⟩ := List.mem_map.1 member
  have high := Layout.toInt_pos (positive dim inside)
  omega

theorem conducts_parameter {draft : Draft} {elementType : ElementType} {shape : Shape}
    (positive : shape.Positive) :
    Conducts (fun _ => True)
      (fun graph node => node = ⟨draft.graph.size, .parameter, [], shape, elementType⟩ ∧
        graph.node? draft.graph.size = some node)
      (Emit.parameter elementType shape) draft :=
  ⟨.single (.source rfl positive), rfl, Graph.node?_push_self draft.graph _ _ _⟩

/-- A graph input is bound to a node and flagged, and has a new parameter. -/
theorem proceeds_registerInput (tensor : Tensor) (index : OperandIndex) (builder : Builder) :
    Proceeds builder
      (fun _ after => ∃ id elementType shape,
        builder.Commits after ((builder.registry.bind index id).flag index) [builder.graph.size] [] ∧
          after.graph.HasId id ∧ after.graph.node? builder.graph.size =
            some ⟨builder.graph.size, .parameter, [], shape, elementType⟩)
      (registerInput tensor index) builder := by
  apply (proceeds_lift (.refl builder) (inputType tensor index)).bind
  rintro ⟨elementType, shape⟩ _ ⟨typed, rfl⟩
  obtain ⟨_, _, _, _, shaped⟩ := inputType_eq_ok.1 typed
  apply (proceeds_emitting (.refl _) (conducts_parameter (positive_of_layout shaped))).bind
  rintro _ first ⟨spares, ⟨rfl, held⟩, _⟩
  have conducts : Conducts (fun _ => True) Graph.HasId
      (Layout.toEngine tensor.dims builder.graph.size) first.draft := conducts_toEngine _ _
  apply (proceeds_emitting spares conducts).bind
  rintro id second ⟨spares', has, _⟩
  have whole := spares.trans spares'
  refine ⟨id, elementType, shape, ⟨whole.develops, ?_, ?_, whole.results_eq⟩, has, ?_⟩
  · exact congrArg (fun registry => (registry.bind index id).flag index) whole.registry_eq
  · exact congrArg (· ++ [builder.graph.size]) (whole.parameters_eq.trans (List.append_nil _))
  · exact spares'.develops.extends.node? held

/-- Weights are bound to a new constant; where they are refused, the graph is as it was too. -/
theorem registerConstant_cases (tensor : Tensor) (index : OperandIndex) (builder : Builder) :
    match registerConstant tensor index builder with
    | .ok _ after => ∃ id, builder.Commits after (builder.registry.bind index id) [] [] ∧
        after.graph.HasId id
    | .error _ after => after = builder := by
  unfold registerConstant
  cases content : constantContent tensor index with
  | error failure => rw [run_bind_of_error (run_lift_error rfl builder)]
  | ok described =>
    obtain ⟨elementType, shape, data⟩ := described
    obtain ⟨_, _, _, _, shaped, _⟩ := constantContent_eq_ok.1 content
    rw [run_bind_of_ok (run_lift_ok rfl builder)]
    dsimp only
    rw [run_bind_of_ok (run_get builder)]
    cases added : builder.graph.addConstant elementType shape data with
    | error error => rfl
    | ok result =>
      obtain ⟨_, rfl⟩ := Graph.addConstant_eq_ok.1 added
      have develops : builder.graph.Develops
          (builder.graph.push (.constant data) [] (shape, elementType)).2 :=
        .single (.source rfl (positive_of_layout shaped))
      refine ⟨builder.graph.size, ⟨develops, rfl, (List.append_nil _).symm, (List.append_nil _).symm⟩, ?_⟩
      exact Graph.hasNode_push builder.graph _ _ _

theorem proceeds_registerConstant (tensor : Tensor) (index : OperandIndex) (builder : Builder) :
    Proceeds builder
      (fun _ after => ∃ id, builder.Commits after (builder.registry.bind index id) [] [] ∧
        after.graph.HasId id)
      (registerConstant tensor index) builder := by
  have outcome := registerConstant_cases tensor index builder
  rw [Proceeds]
  cases ran : registerConstant tensor index builder with
  | error failure after =>
    rw [ran] at outcome
    rw [outcome]
    exact .refl builder
  | ok value after =>
    rw [ran] at outcome
    exact outcome

/-! ## Nodes -/

theorem proceeds_lowerNode (id : Int32) (node : ScheduledNode) (tensors : TensorContext)
    (builder : Builder) :
    Proceeds builder
      (fun _ after => ∃ output result, node.outputs.head? = some output ∧
        builder.Commits after (builder.registry.bind output result) [] [] ∧ after.graph.HasId result)
      (lowerNode id node tensors) builder := by
  apply (proceeds_lift (.refl builder) (target id node)).bind
  rintro ⟨output, recipe⟩ _ ⟨known, rfl⟩
  obtain ⟨_, first, _⟩ := target_eq_ok.1 known
  apply proceeds_get
  apply (proceeds_emitting (.refl builder) (recipe.develops_emit node.options)).bind
  rintro result after ⟨spares, has, _⟩
  refine ⟨output, result, first, ⟨spares.develops, ?_, spares.parameters_eq, spares.results_eq⟩, has⟩
  exact congrArg (·.bind output result) spares.registry_eq

/-! ## Results -/

/-- What is given back for an operand: the node bound to it, or a transpose of that node into the host's
layout. -/
def GivenBack (registry : Registry) (graph : Graph) (index : OperandIndex) (result : NodeId) : Prop :=
  ∃ id, registry.node? index = some id ∧
    (result = id ∨ ∃ order shape elementType,
      graph.node? result = some ⟨result, .transpose, [id, order], shape, elementType⟩ ∧
        graph.integers? order = some [0, 2, 3, 1])

theorem GivenBack.mono {registry : Registry} {graph longer : Graph} (grown : graph.Extends longer)
    {index : OperandIndex} {result : NodeId} (given : GivenBack registry graph index result) :
    GivenBack registry longer index result := by
  obtain ⟨id, bound, plain | ⟨order, shape, elementType, transposed, integers⟩⟩ := given
  · exact ⟨id, bound, .inl plain⟩
  · obtain ⟨constant, held, read⟩ := Option.bind_eq_some_iff.1 integers
    have integers' : longer.integers? order = some [0, 2, 3, 1] :=
      Option.bind_eq_some_iff.2 ⟨constant, grown.node? held, read⟩
    exact ⟨id, bound, .inr ⟨order, shape, elementType, grown.node? transposed, integers'⟩⟩

theorem proceeds_resultNode {start builder : Builder} (spares : start.Spares builder)
    (index : OperandIndex) :
    Proceeds start
      (fun result after => builder.Spares after ∧
        GivenBack builder.registry after.graph index result)
      (resultNode index) builder := by
  apply proceeds_get
  apply (proceeds_lift spares (builder.registry.node index)).bind
  rintro id _ ⟨known, rfl⟩
  have bound := Registry.node_eq_ok.1 known
  by_cases image : (builder.graph.node? id).any (·.rank = 4) = true
  · rw [if_pos image]
    apply (proceeds_emitting spares (conducts_toHost id)).imp
    rintro result after ⟨spares', _, ran⟩
    obtain ⟨_, transposed⟩ := Layout.of_toHost ran
    exact ⟨spares', id, bound, .inr transposed⟩
  · rw [if_neg image]
    exact ⟨.refl builder, id, bound, .inl rfl⟩

theorem proceeds_resultNodes {start builder : Builder} (spares : start.Spares builder)
    (outputs : List OperandIndex) :
    Proceeds start
      (fun results after => builder.Spares after ∧
        List.Forall₂ (GivenBack builder.registry after.graph) outputs results)
      (resultNodes outputs) builder := by
  induction outputs generalizing builder with
  | nil => exact ⟨.refl builder, .nil⟩
  | cons index rest ih =>
    apply (proceeds_resultNode spares index).bind
    rintro result first ⟨spares₁, given⟩
    apply (ih (spares.trans spares₁)).bind
    rintro results last ⟨spares₂, given'⟩
    rw [spares₁.registry_eq] at given'
    exact ⟨spares₁.trans spares₂, .cons (given.mono spares₂.develops.extends) given'⟩

theorem proceeds_finalize (outputs : List OperandIndex) (builder : Builder) :
    Proceeds builder
      (fun _ after => ∃ results, builder.Commits after builder.registry [] results ∧
        List.Forall₂ (GivenBack builder.registry after.graph) outputs results)
      (finalize outputs) builder := by
  unfold finalize
  by_cases none : outputs = []
  · rw [if_pos none]
    exact .refl builder
  · rw [if_neg none]
    apply (proceeds_resultNodes (.refl builder) outputs).bind
    rintro results after ⟨spares, given⟩
    refine ⟨results, ⟨spares.develops, spares.registry_eq, spares.parameters_eq, ?_⟩, given⟩
    exact congrArg (· ++ results) (spares.results_eq.trans (List.append_nil _))

/-! ## Calls -/

inductive Call
  | registerInput (tensor : Tensor) (index : OperandIndex)
  | registerConstant (tensor : Tensor) (index : OperandIndex)
  | lowerNode (id : Int32) (node : ScheduledNode) (tensors : TensorContext)
  | finalize (outputs : List OperandIndex)

namespace Call

def run : Call → Build Unit
  | registerInput tensor index => Builder.registerInput tensor index
  | registerConstant tensor index => Builder.registerConstant tensor index
  | lowerNode id node tensors => Builder.lowerNode id node tensors
  | finalize outputs => Builder.finalize outputs

def isConstant : Call → Bool
  | registerConstant _ _ => true
  | _ => false

def after (call : Call) (builder : Builder) : Builder :=
  match call.run builder with
  | .ok _ after => after
  | .error _ after => after

def succeeds (call : Call) (builder : Builder) : Bool :=
  match call.run builder with
  | .ok _ _ => true
  | .error _ _ => false

end Call

/-! ## What a call changes -/

def BoundAlikeBut (index : OperandIndex) (before after : Registry) : Prop :=
  ∀ other, other ≠ index → after.node? other = before.node? other

/-- What a successful call has changed besides adding to the graph. -/
def Call.Changes (before after : Builder) : Call → Prop
  | .registerInput _ index =>
    BoundAlikeBut index before.registry after.registry ∧
      (∀ other, other ≠ index →
        after.registry.isFlagged other = before.registry.isFlagged other) ∧
      (∃ id, after.registry.node? index = some id ∧ after.graph.HasId id) ∧
      after.registry.isFlagged index = true ∧
      (∃ parameter node, after.parameters = before.parameters ++ [parameter] ∧
        after.graph.node? parameter = some node ∧ node.op = .parameter) ∧
      after.results = before.results
  | .registerConstant _ index =>
    BoundAlikeBut index before.registry after.registry ∧
      (∀ other, after.registry.isFlagged other = before.registry.isFlagged other) ∧
      (∃ id, after.registry.node? index = some id ∧ after.graph.HasId id) ∧
      after.parameters = before.parameters ∧ after.results = before.results
  | .lowerNode _ node _ =>
    ∃ output, node.outputs.head? = some output ∧
      BoundAlikeBut output before.registry after.registry ∧
      (∀ other, after.registry.isFlagged other = before.registry.isFlagged other) ∧
      (∃ id, after.registry.node? output = some id ∧ after.graph.HasId id) ∧
      after.parameters = before.parameters ∧ after.results = before.results
  | .finalize outputs =>
    after.registry = before.registry ∧ after.parameters = before.parameters ∧
      ∃ results, after.results = before.results ++ results ∧
        List.Forall₂ (GivenBack before.registry after.graph) outputs results

structure Call.Leaves (call : Call) (before after : Builder) : Prop where
  registry : after.registry = before.registry
  parameters : after.parameters = before.parameters
  results : after.results = before.results
  graph : before.graph.Extends after.graph
  constants : call.isConstant = true → after.graph = before.graph

/-- A call extends the graph and changes what it is for, or it fails and leaves the rest as it was. -/
def Call.Atomic (call : Call) (builder : Builder) : Prop :=
  match call.run builder with
  | .ok _ after => builder.graph.Extends after.graph ∧ call.Changes builder after
  | .error _ after => call.Leaves builder after

theorem boundAlikeBut_bind (registry : Registry) (index : OperandIndex) (id : NodeId) :
    BoundAlikeBut index registry (registry.bind index id) :=
  fun _ apart => Registry.node?_bind_of_ne registry index id apart

theorem Spares.leaves {call : Call} {before after : Builder} (spares : before.Spares after)
    (other : call.isConstant = false) : call.Leaves before after where
  registry := spares.registry_eq
  parameters := spares.parameters_eq.trans (List.append_nil _)
  results := spares.results_eq.trans (List.append_nil _)
  graph := spares.develops.extends
  constants := fun constant => absurd constant (Bool.eq_false_iff.1 other)

theorem Call.leaves_self (call : Call) (builder : Builder) : call.Leaves builder builder :=
  ⟨rfl, rfl, rfl, .refl _, fun _ => rfl⟩

theorem atomic_of_proceeds {call : Call} {builder : Builder} {Shows : Builder → Prop}
    (proceeds : Proceeds builder (fun _ => Shows) call.run builder)
    (other : call.isConstant = false)
    (changes : ∀ after, Shows after → builder.graph.Extends after.graph ∧ call.Changes builder after) :
    call.Atomic builder := by
  rw [Proceeds] at proceeds
  rw [Call.Atomic]
  cases ran : call.run builder with
  | error failure after =>
    rw [ran] at proceeds
    exact proceeds.leaves other
  | ok value after =>
    rw [ran] at proceeds
    exact changes after proceeds

section Changes

variable {before after : Builder} {index : OperandIndex} {id : NodeId}

theorem changes_registerInput (tensor : Tensor) {parameter : Node}
    (commits : before.Commits after ((before.registry.bind index id).flag index)
      [before.graph.size] []) (has : after.graph.HasId id)
    (held : after.graph.node? before.graph.size = some parameter) (op : parameter.op = .parameter) :
    (Call.registerInput tensor index).Changes before after := by
  refine ⟨?_, ?_, ⟨id, ?_, has⟩, ?_, ⟨_, parameter, commits.parameters_eq, held, op⟩, ?_⟩
  · rw [commits.registry_eq]
    exact boundAlikeBut_bind before.registry index id
  · intro other apart
    rw [commits.registry_eq, Registry.isFlagged_flag, decide_eq_false apart, Bool.false_or,
      Registry.isFlagged_bind]
  · rw [commits.registry_eq, Registry.node?_flag, Registry.node?_bind_self]
  · rw [commits.registry_eq, Registry.isFlagged_flag, decide_eq_true rfl, Bool.true_or]
  · exact commits.results_eq.trans (List.append_nil _)

theorem changes_bind (commits : before.Commits after (before.registry.bind index id) [] [])
    (has : after.graph.HasId id) :
    BoundAlikeBut index before.registry after.registry ∧
      (∀ other, after.registry.isFlagged other = before.registry.isFlagged other) ∧
      (∃ id, after.registry.node? index = some id ∧ after.graph.HasId id) ∧
      after.parameters = before.parameters ∧ after.results = before.results := by
  refine ⟨?_, ?_, ⟨id, ?_, has⟩, ?_, ?_⟩
  · rw [commits.registry_eq]
    exact boundAlikeBut_bind before.registry index id
  · intro other
    rw [commits.registry_eq, Registry.isFlagged_bind]
  · rw [commits.registry_eq, Registry.node?_bind_self]
  · exact commits.parameters_eq.trans (List.append_nil _)
  · exact commits.results_eq.trans (List.append_nil _)

end Changes

theorem call_atomic (call : Call) (builder : Builder) : call.Atomic builder := by
  cases call with
  | registerInput tensor index =>
    apply atomic_of_proceeds (proceeds_registerInput tensor index builder) rfl
    rintro after ⟨id, _, _, commits, has, held⟩
    exact ⟨commits.develops.extends, changes_registerInput tensor commits has held rfl⟩
  | registerConstant tensor index =>
    have outcome := registerConstant_cases tensor index builder
    rw [Call.Atomic, Call.run]
    cases ran : registerConstant tensor index builder with
    | error failure after =>
      rw [ran] at outcome
      rw [outcome]
      exact Call.leaves_self _ builder
    | ok value after =>
      rw [ran] at outcome
      obtain ⟨id, commits, has⟩ := outcome
      exact ⟨commits.develops.extends, changes_bind commits has⟩
  | lowerNode id node tensors =>
    apply atomic_of_proceeds (proceeds_lowerNode id node tensors builder) rfl
    rintro after ⟨output, result, first, commits, has⟩
    exact ⟨commits.develops.extends, output, first, changes_bind commits has⟩
  | finalize outputs =>
    apply atomic_of_proceeds (proceeds_finalize outputs builder) rfl
    rintro after ⟨results, commits, given⟩
    exact ⟨commits.develops.extends, commits.registry_eq,
      commits.parameters_eq.trans (List.append_nil _), results, commits.results_eq, given⟩

end Builder

end PartitionLowering
