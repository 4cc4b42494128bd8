import PartitionLowering.Lowering.Partition
import PartitionLowering.Proofs.Lowering.Weights

/-!
The invariant of a lowering under way.  `Mirrors` ties the nodes that stand for operands to the shapes
that the host infers for them: an image stands in the engine's layout of its host shape, weights stand as
a constant.  Registering operands (`Mirrors.materializeAll`) and lowering a node (`Mirrors.lowerNode`) keep
it, and at the end it tells the shapes of the results (`Mirrors.resultNodes_ok`).  `Lowers` lists the steps
of a whole lowering.  What one request for an operand or the lowering of one node keeps, whatever it is, a
run keeps: `materializeAll_keeps`, `lowerNodes_keeps`.
-/

set_option autoImplicit false

namespace PartitionLowering

def WeightNode (tensors : TensorContext) (graph : Graph) (index : OperandIndex) (id : NodeId) : Prop :=
  ∃ tensor data elementType, tensors.get? index = some tensor ∧ tensor.allocation = .mmapRo ∧
    tensor.data = some data ∧ Layout.elementType tensor.tensorType = .ok elementType ∧
    Layout.shape tensor.dims = .ok tensor.hostShape ∧
    graph.node? id = some ⟨id, .constant data, [], tensor.hostShape, elementType⟩

def Stands (partition : Partition) (tensors : TensorContext) (fits : OutputType → Prop)
    (shapes : Host.Shapes) (graph : Graph) (index : OperandIndex) (id : NodeId) : Prop :=
  (∃ shape elementType, shapes index = some shape ∧ fits (shape, elementType) ∧
      graph.Typed id (Layout.engineShape shape, elementType)) ∨
    (shapes index = none ∧ index ∉ partition.inputs ∧ WeightNode tensors graph index id)

/-- What stands for operands, in view of the host's shapes; `fits` is what is asked of an image, its host
shape and its element type. -/
structure Mirrors (partition : Partition) (tensors : TensorContext) (fits : OutputType → Prop)
    (shapes : Host.Shapes) (builder : Builder) : Prop where
  nodes : ∀ index id, builder.registry.node? index = some id →
    Stands partition tensors fits shapes builder.graph index id
  fresh : ∀ index, builder.registry.node? index = none →
    shapes index = Host.inputShapes partition tensors index
  flagged : ∀ index, builder.registry.isFlagged index = true → index ∈ partition.inputs

def Builder.Bound (builder : Builder) (index : OperandIndex) : Prop :=
  ∃ id, builder.registry.node? index = some id

section Steps

variable {partition : Partition} {tensors : TensorContext} {fits : OutputType → Prop}
  {shapes : Host.Shapes} {builder after : Builder}

theorem mirrors_empty : Mirrors partition tensors fits (Host.inputShapes partition tensors) {} := by
  constructor
  · intro index id bound
    cases bound
  · intro index _
    rfl
  · intro index flagged
    cases flagged

theorem Mirrors.live (mirrors : Mirrors partition tensors fits shapes builder)
    (inputs : List OperandIndex) (position : Nat) :
    Scope.Live ⟨builder.registry, tensors⟩ builder.graph inputs position := by
  intro index id _ _ bound
  rcases mirrors.nodes index id bound with ⟨_, _, _, _, node, found, _⟩ | ⟨_, _, weights⟩
  · exact Graph.lt_size_of_node? found
  · obtain ⟨_, _, _, _, _, _, _, _, found⟩ := weights
    exact Graph.lt_size_of_node? found

theorem Stands.mono {graph longer : Graph} (grown : graph.Extends longer) {index : OperandIndex}
    {id : NodeId} (stands : Stands partition tensors fits shapes graph index id) :
    Stands partition tensors fits shapes longer index id := by
  rcases stands with ⟨shape, type, here, fit, typed⟩ | ⟨none, apart, weights⟩
  · exact .inl ⟨shape, type, here, fit, grown.typed typed⟩
  · obtain ⟨tensor, data, elementType, known, kept, held, typed, shaped, found⟩ := weights
    exact .inr ⟨none, apart, tensor, data, elementType, known, kept, held, typed, shaped,
      grown.node? found⟩

theorem Stands.congr {shapes' : Host.Shapes} {graph : Graph} {index : OperandIndex} {id : NodeId}
    (stands : Stands partition tensors fits shapes graph index id)
    (same : shapes' index = shapes index) :
    Stands partition tensors fits shapes' graph index id := by
  rw [Stands, same]
  exact stands

/-- One operand is bound, and all others stand as they did. -/
theorem Mirrors.bind (mirrors : Mirrors partition tensors fits shapes builder)
    {shapes' : Host.Shapes} {index : OperandIndex} {id : NodeId}
    (longer : builder.graph.Extends after.graph) (here : after.registry.node? index = some id)
    (others : ∀ other, other ≠ index →
      after.registry.node? other = builder.registry.node? other ∧ shapes' other = shapes other)
    (stands : Stands partition tensors fits shapes' after.graph index id)
    (flagged : ∀ other, after.registry.isFlagged other = true → other ∈ partition.inputs) :
    Mirrors partition tensors fits shapes' after := by
  refine ⟨?_, ?_, flagged⟩
  · intro other id' bound
    by_cases same : other = index
    · subst same
      rw [here] at bound
      cases bound
      exact stands
    · obtain ⟨kept, unchanged⟩ := others other same
      rw [kept] at bound
      exact ((mirrors.nodes other id' bound).mono longer).congr unchanged
  · intro other free
    by_cases same : other = index
    · subst same
      rw [here] at free
      cases free
    · obtain ⟨kept, unchanged⟩ := others other same
      rw [kept] at free
      rw [unchanged]
      exact mirrors.fresh other free

theorem Mirrors.input (mirrors : Mirrors partition tensors fits shapes builder) {index : OperandIndex}
    {id : NodeId} {tensor : Tensor} {elementType : ElementType}
    (moves : builder.Moves after ((builder.registry.bind index id).flag index))
    (unbound : builder.registry.node? index = none) (member : index ∈ partition.inputs)
    (known : tensors.get? index = some tensor) (fit : fits (tensor.hostShape, elementType))
    (typed : after.graph.Typed id (Layout.engineShape tensor.hostShape, elementType)) :
    Mirrors partition tensors fits shapes after := by
  have initial : shapes index = some tensor.hostShape := by
    rw [mirrors.fresh index unbound, Host.inputShapes, if_pos member, known]
    rfl
  apply mirrors.bind moves.longer
  · rw [moves.registry_eq, Registry.node?_flag, Registry.node?_bind_self]
  · intro other apart
    rw [moves.registry_eq, Registry.node?_flag, Registry.node?_bind_of_ne _ _ _ apart]
    exact ⟨rfl, rfl⟩
  · exact .inl ⟨_, _, initial, fit, typed⟩
  · intro other flag
    rw [moves.registry_eq, Registry.isFlagged_flag, Registry.isFlagged_bind] at flag
    by_cases here : other = index
    · rwa [here]
    · exact mirrors.flagged other (by simpa [here] using flag)

theorem Mirrors.weights (mirrors : Mirrors partition tensors fits shapes builder) {index : OperandIndex}
    {id : NodeId} (moves : builder.Moves after (builder.registry.bind index id))
    (unbound : builder.registry.node? index = none) (apart : index ∉ partition.inputs)
    (weights : WeightNode tensors after.graph index id) :
    Mirrors partition tensors fits shapes after := by
  have initial : shapes index = none := by
    rw [mirrors.fresh index unbound, Host.inputShapes, if_neg apart]
  apply mirrors.bind moves.longer
  · rw [moves.registry_eq, Registry.node?_bind_self]
  · intro other different
    rw [moves.registry_eq, Registry.node?_bind_of_ne _ _ _ different]
    exact ⟨rfl, rfl⟩
  · exact .inr ⟨initial, apart, weights⟩
  · intro other flag
    rw [moves.registry_eq, Registry.isFlagged_bind] at flag
    exact mirrors.flagged other flag

theorem Mirrors.output (mirrors : Mirrors partition tensors fits shapes builder) {index : OperandIndex}
    {id : NodeId} {shape : Shape} {elementType : ElementType}
    (moves : builder.Moves after (builder.registry.bind index id)) (fit : fits (shape, elementType))
    (typed : after.graph.Typed id (Layout.engineShape shape, elementType)) :
    Mirrors partition tensors fits (shapes.write index shape) after := by
  apply mirrors.bind moves.longer
  · rw [moves.registry_eq, Registry.node?_bind_self]
  · intro other apart
    rw [moves.registry_eq, Registry.node?_bind_of_ne _ _ _ apart]
    exact ⟨rfl, if_neg apart⟩
  · exact .inl ⟨shape, elementType, if_pos rfl, fit, typed⟩
  · intro other flag
    rw [moves.registry_eq, Registry.isFlagged_bind] at flag
    exact mirrors.flagged other flag

end Steps

/-! ## Registering operands -/

section Materialize

variable {partition : Partition} {tensors : TensorContext} {builder after : Builder}
  {index : OperandIndex} {given : List OperandIndex}

theorem contains_eq_true {registry : Registry} :
    registry.contains index = true ↔ ∃ id, registry.node? index = some id :=
  Option.isSome_iff_exists

theorem tensor_eq_ok {tensor : Tensor} :
    Scope.tensor tensors index = .ok tensor ↔ tensors.get? index = some tensor := by
  rw [Scope.tensor]
  cases tensors.get? index <;> simp

/-- What registering an operand does: nothing where it has a node or is nowhere to be had, else weights
become a constant and an input of the partition becomes a graph input, which is given back. -/
inductive Materializes (partition : Partition) (tensors : TensorContext) (index : OperandIndex)
    (builder : Builder) : List OperandIndex → Builder → Prop
  | bound (held : builder.Bound index) : Materializes partition tensors index builder [] builder
  | weights {tensor : Tensor} {after : Builder} (unbound : builder.registry.node? index = none)
      (known : tensors.get? index = some tensor) (kept : tensor.allocation = .mmapRo)
      (ran : Builder.registerConstant tensor index builder = .ok () after) :
      Materializes partition tensors index builder [] after
  | input {tensor : Tensor} {after : Builder} (unbound : builder.registry.node? index = none)
      (known : tensors.get? index = some tensor) (mutable : tensor.allocation ≠ .mmapRo)
      (member : index ∈ partition.inputs)
      (ran : Builder.registerInput tensor index builder = .ok () after) :
      Materializes partition tensors index builder [index] after
  | foreign {tensor : Tensor} (unbound : builder.registry.node? index = none)
      (known : tensors.get? index = some tensor) (mutable : tensor.allocation ≠ .mmapRo)
      (apart : index ∉ partition.inputs) : Materializes partition tensors index builder [] builder

theorem not_bound (unbound : builder.registry.node? index = none) : ¬builder.Bound index := by
  rintro ⟨id, held⟩
  rw [unbound] at held
  cases held

theorem contains_eq_false {registry : Registry} :
    registry.contains index = false ↔ registry.node? index = none :=
  Option.isSome_eq_false_iff.trans Option.isNone_iff_eq_none

theorem materialize_eq_ok :
    partition.materialize tensors index builder = .ok given after ↔
      Materializes partition tensors index builder given after := by
  unfold Partition.materialize
  rw [run_bind_of_ok (run_get builder)]
  constructor
  · intro ran
    cases bound : builder.registry.contains index with
    | true =>
      simp only [bound, if_true] at ran
      cases ran
      exact .bound (contains_eq_true.1 bound)
    | false =>
      have unbound := contains_eq_false.1 bound
      simp only [bound, Bool.false_eq_true, if_false] at ran
      obtain ⟨tensor, found, rest⟩ := run_lift_bind_eq_ok.1 ran
      have known := tensor_eq_ok.1 found
      by_cases weights : tensor.allocation = .mmapRo
      · simp only [weights, if_true] at rest
        obtain ⟨_, _, registered, last⟩ := run_bind_eq_ok.1 rest
        cases last
        exact .weights unbound known weights registered
      · by_cases member : index ∈ partition.inputs
        · simp only [weights, member, if_false, if_true] at rest
          obtain ⟨_, _, registered, last⟩ := run_bind_eq_ok.1 rest
          cases last
          exact .input unbound known weights member registered
        · simp only [weights, member, if_false] at rest
          cases rest
          exact .foreign unbound known weights member
  · intro materializes
    cases materializes with
    | bound held =>
      have bound := contains_eq_true.2 held
      simp only [bound, if_true]
      rfl
    | weights unbound known kept ran =>
      have free := contains_eq_false.2 unbound
      simp only [free, Bool.false_eq_true, if_false]
      rw [run_bind_of_ok (run_lift_ok (tensor_eq_ok.2 known) builder)]
      simp only [kept, if_true]
      rw [run_bind_of_ok ran]
      rfl
    | input unbound known mutable member ran =>
      have free := contains_eq_false.2 unbound
      simp only [free, Bool.false_eq_true, if_false]
      rw [run_bind_of_ok (run_lift_ok (tensor_eq_ok.2 known) builder)]
      simp only [mutable, member, if_false, if_true]
      rw [run_bind_of_ok ran]
      rfl
    | foreign unbound known mutable apart =>
      have free := contains_eq_false.2 unbound
      simp only [free, Bool.false_eq_true, if_false]
      rw [run_bind_of_ok (run_lift_ok (tensor_eq_ok.2 known) builder)]
      simp only [mutable, apart, if_false]
      rfl

/-- What every request for an operand keeps, a run of requests keeps.  What is kept may speak of the operands
asked for so far and of those among them that became graph inputs. -/
theorem materializeAll_keeps (kept : List OperandIndex → List OperandIndex → Builder → Prop)
    {indices : List OperandIndex}
    (keeps : ∀ index ∈ indices, ∀ {asked given more : List OperandIndex} {builder after : Builder},
      kept asked given builder → partition.materialize tensors index builder = .ok more after →
      kept (asked ++ [index]) (given ++ more) after) :
    ∀ (asked given : List OperandIndex) {more : List OperandIndex} {builder : Builder},
      kept asked given builder → partition.materializeAll tensors indices builder = .ok more after →
      kept (asked ++ indices) (given ++ more) after := by
  induction indices with
  | nil =>
    intro asked given more builder start ran
    cases ran
    rwa [List.append_nil, List.append_nil]
  | cons index rest ih =>
    intro asked given more builder start ran
    obtain ⟨first, between, here, ran⟩ := run_bind_eq_ok.1 ran
    obtain ⟨others, _, later, last⟩ := run_bind_eq_ok.1 ran
    cases last
    have next := keeps index List.mem_cons_self start here
    have last := ih (fun other member => keeps other (List.mem_cons_of_mem _ member)) _ _ next later
    rwa [List.append_assoc, List.singleton_append, List.append_assoc] at last

structure Builder.Keeps (before after : Builder) : Prop where
  bound : ∀ index, before.Bound index → after.Bound index
  results_eq : after.results = before.results

theorem Builder.Keeps.refl (builder : Builder) : builder.Keeps builder :=
  ⟨fun _ bound => bound, rfl⟩

theorem Builder.Keeps.trans {before between after : Builder} (first : before.Keeps between)
    (second : between.Keeps after) : before.Keeps after :=
  ⟨fun index bound => second.bound index (first.bound index bound),
    second.results_eq.trans first.results_eq⟩

theorem Builder.Moves.keeps {registry : Registry} (moves : builder.Moves after registry) {id : NodeId}
    (bind : ∀ other, registry.node? other = (builder.registry.bind index id).node? other) :
    builder.Keeps after ∧ after.Bound index := by
  have here : after.Bound index := ⟨id, by rw [moves.registry_eq, bind, Registry.node?_bind_self]⟩
  refine ⟨⟨?_, moves.results_eq⟩, here⟩
  rintro other ⟨id', bound⟩
  by_cases same : other = index
  · rwa [same]
  · exact ⟨id', by rw [moves.registry_eq, bind, Registry.node?_bind_of_ne _ _ _ same, bound]⟩

/-- What is asked of a graph input: it is no weights, can be brought into the engine's layout, and fits. -/
def Suits (tensors : TensorContext) (fits : OutputType → Prop) (index : OperandIndex) : Prop :=
  ∃ tensor, tensors.get? index = some tensor ∧ tensor.allocation ≠ .mmapRo ∧
    (tensor.dims.length = 4 ∨ Shape.elementCount? tensor.hostShape ≠ none) ∧
      ∀ elementType, Layout.elementType tensor.tensorType = .ok elementType →
        fits (tensor.hostShape, elementType)

def Provided (partition : Partition) (tensors : TensorContext) (index : OperandIndex) : Prop :=
  index ∈ partition.inputs ∨ ∃ tensor, tensors.get? index = some tensor ∧ tensor.allocation = .mmapRo

variable {fits : OutputType → Prop} {shapes : Host.Shapes}

theorem Mirrors.materialize (mirrors : Mirrors partition tensors fits shapes builder)
    (suits : ¬builder.Bound index → index ∈ partition.inputs → Suits tensors fits index)
    (ran : partition.materialize tensors index builder = .ok given after) :
    Mirrors partition tensors fits shapes after ∧ builder.Keeps after ∧
      (Provided partition tensors index → after.Bound index) := by
  cases materialize_eq_ok.1 ran with
  | bound held => exact ⟨mirrors, .refl _, fun _ => held⟩
  | weights unbound known weights registered =>
    have apart : index ∉ partition.inputs := by
      intro member
      obtain ⟨tensor', known', other, _⟩ := suits (not_bound unbound) member
      rw [known] at known'
      cases known'
      exact other weights
    obtain ⟨elementType, shape, data, held, typed, shaped, moves, found⟩ :=
      Builder.registerConstant_eq_ok registered
    obtain ⟨_, rfl⟩ := Layout.shape_eq_ok.1 shaped
    obtain ⟨keeps, bound⟩ := moves.keeps fun _ => rfl
    refine ⟨mirrors.weights moves unbound apart ?_, keeps, fun _ => bound⟩
    exact ⟨_, data, elementType, known, weights, held, typed, shaped, found⟩
  | input unbound known mutable member registered =>
    obtain ⟨tensor', known', _, room, fit⟩ := suits (not_bound unbound) member
    rw [known] at known'
    cases known'
    obtain ⟨elementType, shape, typed⟩ := Builder.inputType_of_registerInput registered
    obtain ⟨_, _, _, element, shaped⟩ := Builder.inputType_eq_ok.1 typed
    obtain ⟨_, rfl⟩ := Layout.shape_eq_ok.1 shaped
    obtain ⟨id, after', registered', moves, result⟩ := Builder.registerInput_ok typed room builder
    rw [registered] at registered'
    cases registered'
    obtain ⟨keeps, bound⟩ := moves.keeps fun _ => rfl
    exact ⟨mirrors.input moves unbound member known (fit elementType element) result, keeps,
      fun _ => bound⟩
  | foreign unbound known mutable apart =>
    refine ⟨mirrors, .refl _, ?_⟩
    rintro (given | ⟨tensor', known', weights⟩)
    · exact absurd given apart
    · rw [known] at known'
      cases known'
      exact absurd weights mutable

theorem Mirrors.materializeAll {indices : List OperandIndex}
    (mirrors : Mirrors partition tensors fits shapes builder)
    (suits : ∀ index ∈ indices, ¬builder.Bound index → index ∈ partition.inputs →
      Suits tensors fits index)
    (ran : partition.materializeAll tensors indices builder = .ok given after) :
    Mirrors partition tensors fits shapes after ∧ builder.Keeps after ∧
      ∀ index ∈ indices, Provided partition tensors index → after.Bound index := by
  refine materializeAll_keeps
    (fun asked _ here => Mirrors partition tensors fits shapes here ∧ builder.Keeps here ∧
      ∀ index ∈ asked, Provided partition tensors index → here.Bound index)
    ?_ [] [] ⟨mirrors, .refl _, nofun⟩ ran
  rintro index member asked given more between next ⟨mirrors, keeps, bounds⟩ ran
  have suits' : ¬between.Bound index → index ∈ partition.inputs → Suits tensors fits index :=
    fun unbound => suits index member fun bound => unbound (keeps.bound index bound)
  obtain ⟨mirrors', keeps', bound⟩ := mirrors.materialize suits' ran
  refine ⟨mirrors', keeps.trans keeps', ?_⟩
  intro other seen provided
  rcases List.mem_append.1 seen with earlier | same
  · exact keeps'.bound other (bounds other earlier provided)
  · cases List.mem_singleton.1 same
    exact bound provided

def Ready (partition : Partition) (tensors : TensorContext) (fits : OutputType → Prop)
    (index : OperandIndex) : Prop :=
  index ∈ partition.inputs ∧ Suits tensors fits index ∧
    ∀ tensor, tensors.get? index = some tensor → ∃ type, Builder.inputType tensor index = .ok type

theorem materialize_ok (ready : builder.Bound index ∨ Ready partition tensors fits index) :
    ∃ given after, partition.materialize tensors index builder = .ok given after ∧
      after.Bound index := by
  unfold Partition.materialize
  rw [run_bind_of_ok (run_get builder)]
  by_cases bound : builder.registry.contains index = true
  · simp only [bound, if_true]
    exact ⟨[], builder, rfl, contains_eq_true.1 bound⟩
  · obtain ⟨member, ⟨tensor, known, mutable, room, _⟩, typed⟩ :=
      ready.resolve_left fun held => bound (contains_eq_true.2 held)
    obtain ⟨⟨elementType, shape⟩, typed⟩ := typed tensor known
    obtain ⟨_, _, _, _, shaped⟩ := Builder.inputType_eq_ok.1 typed
    obtain ⟨_, rfl⟩ := Layout.shape_eq_ok.1 shaped
    obtain ⟨id, after, registered, moves, _⟩ := Builder.registerInput_ok typed room builder
    simp only [bound]
    rw [if_neg (by simp), run_bind_of_ok (run_lift_ok (tensor_eq_ok.2 known) builder)]
    simp only [mutable, member, if_false, if_true]
    rw [run_bind_of_ok registered]
    exact ⟨[index], after, rfl, (moves.keeps fun _ => rfl).2⟩

theorem Mirrors.materializeAll_ok {indices : List OperandIndex} :
    ∀ {builder : Builder}, Mirrors partition tensors fits shapes builder →
      (∀ index ∈ indices, builder.Bound index ∨ Ready partition tensors fits index) →
      ∃ given after, partition.materializeAll tensors indices builder = .ok given after ∧
        Mirrors partition tensors fits shapes after ∧ builder.Keeps after ∧
        ∀ index ∈ indices, after.Bound index := by
  induction indices with
  | nil =>
    intro builder mirrors _
    exact ⟨[], builder, rfl, mirrors, .refl _, nofun⟩
  | cons index rest ih =>
    intro builder mirrors ready
    have here := ready index List.mem_cons_self
    obtain ⟨first, between, ran, bound⟩ := materialize_ok here
    have suits : ¬builder.Bound index → index ∈ partition.inputs → Suits tensors fits index :=
      fun unbound _ => (here.resolve_left unbound).2.1
    obtain ⟨mirrors', keeps, _⟩ := mirrors.materialize suits ran
    have ready' : ∀ other ∈ rest, between.Bound other ∨ Ready partition tensors fits other := by
      intro other member
      rcases ready other (List.mem_cons_of_mem _ member) with held | ready
      · exact .inl (keeps.bound other held)
      · exact .inr ready
    obtain ⟨others, after, ran', mirrors'', keeps', bounds⟩ := ih mirrors' ready'
    refine ⟨first ++ others, after, ?_, mirrors'', keeps.trans keeps', ?_⟩
    · rw [Partition.materializeAll, run_bind_of_ok ran, run_bind_of_ok ran']
      rfl
    · intro other member
      rcases List.mem_cons.1 member with rfl | later
      · exact keeps'.bound other bound
      · exact bounds other later

end Materialize

/-! ## Operands of a node -/

section Operands

variable {partition : Partition} {tensors : TensorContext} {fits : OutputType → Prop}
  {shapes : Host.Shapes} {builder : Builder} {inputs : List OperandIndex} {position : Nat}
  {index : OperandIndex}

theorem Mirrors.data (mirrors : Mirrors partition tensors fits shapes builder)
    (here : inputs[position]? = some index) (valid : 0 ≤ index) (bound : builder.Bound index)
    (known : shapes index ≠ none) :
    ∃ shape elementType, shapes index = some shape ∧ fits (shape, elementType) ∧
      Scope.Data ⟨builder.registry, tensors⟩ builder.graph inputs position
        (Layout.engineShape shape, elementType) := by
  obtain ⟨id, held⟩ := bound
  rcases mirrors.nodes index id held with ⟨shape, elementType, same, fit, node, found, type⟩ | ⟨none, _⟩
  · exact ⟨shape, elementType, same, fit, node, ⟨index, id, here, valid, held, found⟩, type⟩
  · exact absurd none known

theorem Mirrors.known_of_input (mirrors : Mirrors partition tensors fits shapes builder)
    (bound : builder.Bound index) (given : index ∈ partition.inputs) : shapes index ≠ none := by
  obtain ⟨id, held⟩ := bound
  rcases mirrors.nodes index id held with ⟨shape, _, same, _⟩ | ⟨_, apart, _⟩
  · rw [same]
    exact Option.some_ne_none shape
  · exact absurd given apart

theorem Mirrors.weightNode (mirrors : Mirrors partition tensors fits shapes builder)
    (here : inputs[position]? = some index) (valid : 0 ≤ index) (bound : builder.Bound index)
    (unknown : shapes index = none) {tensor : Tensor} (kept : tensors.get? index = some tensor) :
    ∃ id data elementType, tensor.data = some data ∧
      Layout.elementType tensor.tensorType = .ok elementType ∧
      Scope.isFlagged ⟨builder.registry, tensors⟩ inputs position = false ∧
      Scope.Reads ⟨builder.registry, tensors⟩ builder.graph inputs position
        ⟨id, .constant data, [], tensor.hostShape, elementType⟩ := by
  obtain ⟨id, held⟩ := bound
  rcases mirrors.nodes index id held with ⟨shape, _, same, _⟩ | ⟨_, apart, weights⟩
  · rw [unknown] at same
    cases same
  · obtain ⟨tensor', data, elementType, kept', _, payload, typed, _, found⟩ := weights
    rw [kept] at kept'
    cases kept'
    have unflagged : builder.registry.isFlagged index = false := by
      cases flag : builder.registry.isFlagged index with
      | false => rfl
      | true => exact absurd (mirrors.flagged index flag) apart
    refine ⟨id, data, elementType, payload, typed, ?_, index, id, here, valid, held, found⟩
    rw [Scope.isFlagged, here]
    exact unflagged

end Operands

/-! ## Nodes -/

section Nodes

variable {partition : Partition} {tensors : TensorContext} {fits : OutputType → Prop}
  {shapes : Host.Shapes} {builder after : Builder} {node : ScheduledNode} {output : OperandIndex}
  {recipe : Recipe}

def Builder.typeOf (builder : Builder) (tensors : TensorContext) (node : ScheduledNode)
    (recipe : Recipe) : Except Failure (OutputType × List FilterUse) :=
  (recipe.typing ⟨builder.registry, tensors⟩ builder.graph node.inputs node.options).run []

theorem partition_lowerNode_eq_ok {given : List OperandIndex} :
    partition.lowerNode tensors node builder = .ok given after ↔
      Support.check node.op node.inputs node.options tensors = .ok () ∧
        ∃ between, partition.materializeAll tensors node.neededInputs builder = .ok given between ∧
          Builder.lowerNode node.id node tensors between = .ok () after := by
  unfold Partition.lowerNode
  constructor
  · intro ran
    obtain ⟨_, accepted, second⟩ := run_lift_bind_eq_ok.1 ran
    obtain ⟨_, between, registered, third⟩ := run_bind_eq_ok.1 second
    obtain ⟨_, _, lowered, last⟩ := run_bind_eq_ok.1 third
    cases last
    exact ⟨accepted, between, registered, lowered⟩
  · rintro ⟨accepted, between, registered, lowered⟩
    rw [run_bind_of_ok (run_lift_ok accepted builder), run_bind_of_ok registered,
      run_bind_of_ok lowered]
    rfl

theorem lowerNodes_cons_eq_ok {rest : List ScheduledNode} {given : List OperandIndex} :
    partition.lowerNodes tensors (node :: rest) builder = .ok given after ↔
      ∃ first between others, partition.lowerNode tensors node builder = .ok first between ∧
        partition.lowerNodes tensors rest between = .ok others after ∧ given = first ++ others := by
  rw [Partition.lowerNodes]
  constructor
  · intro ran
    obtain ⟨first, between, here, ran⟩ := run_bind_eq_ok.1 ran
    obtain ⟨others, _, later, last⟩ := run_bind_eq_ok.1 ran
    cases last
    exact ⟨first, between, others, here, later, rfl⟩
  · rintro ⟨first, between, others, here, later, rfl⟩
    rw [run_bind_of_ok here, run_bind_of_ok later]
    rfl

/-- What the lowering of every node keeps, a run over the nodes keeps.  What is kept may speak of the nodes
lowered so far and of the operands that became graph inputs. -/
theorem lowerNodes_keeps (kept : List ScheduledNode → List OperandIndex → Builder → Prop)
    {nodes rest : List ScheduledNode}
    (keeps : ∀ {before rest : List ScheduledNode} {node : ScheduledNode}
      {given more : List OperandIndex} {builder after : Builder}, nodes = before ++ node :: rest →
      kept before given builder → partition.lowerNode tensors node builder = .ok more after →
      kept (before ++ [node]) (given ++ more) after) :
    ∀ (before : List ScheduledNode) (given : List OperandIndex) {more : List OperandIndex}
      {builder : Builder}, nodes = before ++ rest → kept before given builder →
      partition.lowerNodes tensors rest builder = .ok more after → kept nodes (given ++ more) after := by
  induction rest with
  | nil =>
    intro before given more builder split start ran
    cases ran
    rw [List.append_nil] at split
    rwa [split, List.append_nil]
  | cons node rest ih =>
    intro before given more builder split start ran
    obtain ⟨first, between, others, here, later, rfl⟩ := lowerNodes_cons_eq_ok.1 ran
    have split' : nodes = (before ++ [node]) ++ rest := by
      rw [split, List.append_assoc, List.singleton_append]
    rw [← List.append_assoc]
    exact ih _ _ split' (keeps split start here) later

theorem mem_of_mem_neededInputs {index : OperandIndex} (member : index ∈ node.neededInputs) :
    index ∈ node.inputs ∧ 0 ≤ index := by
  rw [ScheduledNode.neededInputs] at member
  obtain ⟨scanned, valid⟩ := List.mem_filter.1 member
  refine ⟨?_, by simpa using valid⟩
  by_cases transposed : node.op = .builtin .transposeConv
  · rw [if_pos transposed] at scanned
    exact List.mem_of_mem_drop scanned
  · rwa [if_neg transposed] at scanned

theorem mem_neededInputs {position : Nat} {index : OperandIndex}
    (here : node.inputs[position]? = some index) (valid : 0 ≤ index)
    (needed : node.op = .builtin .transposeConv → 0 < position) : index ∈ node.neededInputs := by
  rw [ScheduledNode.neededInputs]
  refine List.mem_filter.2 ⟨?_, by simpa using valid⟩
  by_cases transposed : node.op = .builtin .transposeConv
  · rw [if_pos transposed]
    have above := needed transposed
    have later : 1 + (position - 1) = position := by omega
    have there : (node.inputs.drop 1)[position - 1]? = some index := by
      rw [List.getElem?_drop, later, here]
    exact List.mem_of_getElem? there
  · rw [if_neg transposed]
    exact List.mem_of_getElem? here

theorem Mirrors.ends_emit (mirrors : Mirrors partition tensors fits shapes builder)
    (node : ScheduledNode) (recipe : Recipe) :
    Ends Graph.Typed (recipe.emit ⟨builder.registry, tensors⟩ node.inputs node.options) builder.draft
      (recipe.typing ⟨builder.registry, tensors⟩ builder.graph node.inputs node.options) := by
  apply recipe.ends_emit
  intro position _
  exact mirrors.live node.inputs position

theorem Mirrors.lowerNode (mirrors : Mirrors partition tensors fits shapes builder)
    (ran : Builder.lowerNode node.id node tensors builder = .ok () after) :
    ∃ output recipe told uses, Builder.target node.id node = .ok (output, recipe) ∧
      builder.typeOf tensors node recipe = .ok (told, uses) ∧ builder.Keeps after ∧
      after.Bound output ∧ ∀ shape elementType, told = (Layout.engineShape shape, elementType) →
        fits (shape, elementType) →
        Mirrors partition tensors fits (shapes.write output shape) after := by
  obtain ⟨output, recipe, result, draft, known, emitted, graph, registry, results⟩ :=
    Builder.lowerNode_eq_ok ran
  have ends := mirrors.ends_emit node recipe
  obtain ⟨told, uses, typed, grows, shown⟩ := ends.ok_of_run emitted
  have longer : builder.graph.Extends after.graph := by
    rw [graph]
    exact grows.longer
  have moves : builder.Moves after (builder.registry.bind output result) := ⟨longer, registry, results⟩
  obtain ⟨keeps, bound⟩ := moves.keeps fun _ => rfl
  refine ⟨output, recipe, told, uses, known, typed, keeps, bound, ?_⟩
  rintro shape elementType rfl fit
  refine mirrors.output moves fit ?_
  rw [graph]
  exact shown

/-- A node that has a type is lowered. -/
theorem Mirrors.lowerNode_ok (mirrors : Mirrors partition tensors fits shapes builder)
    (known : Builder.target node.id node = .ok (output, recipe)) {told : OutputType}
    {uses : List FilterUse} (typed : builder.typeOf tensors node recipe = .ok (told, uses)) :
    ∃ after, Builder.lowerNode node.id node tensors builder = .ok () after := by
  obtain ⟨after, _, ran, _⟩ :=
    Builder.lowerNode_of_told known (mirrors.ends_emit node recipe) typed
  exact ⟨after, ran⟩

end Nodes

/-! ## Results -/

section Results

variable {partition : Partition} {tensors : TensorContext} {fits : OutputType → Prop}
  {shapes : Host.Shapes} {builder after : Builder}

theorem Mirrors.same (mirrors : Mirrors partition tensors fits shapes builder)
    (moves : builder.Moves after builder.registry) :
    Mirrors partition tensors fits shapes after := by
  constructor
  · intro index id bound
    rw [moves.registry_eq] at bound
    exact (mirrors.nodes index id bound).mono moves.longer
  · intro index unbound
    rw [moves.registry_eq] at unbound
    exact mirrors.fresh index unbound
  · intro index flag
    rw [moves.registry_eq] at flag
    exact mirrors.flagged index flag

/-- A node of a graph has the host shape of an operand, ones in front of it. -/
def Shows (fits : OutputType → Prop) (shapes : Host.Shapes) (graph : Graph) (index : OperandIndex)
    (id : NodeId) : Prop :=
  ∃ shape node, shapes index = some shape ∧ fits (shape, node.elementType) ∧
    graph.node? id = some node ∧ node.shape = Shape.padLeft 4 shape

theorem Shows.mono {graph longer : Graph} (grown : graph.Extends longer) {index : OperandIndex}
    {id : NodeId} (shown : Shows fits shapes graph index id) : Shows fits shapes longer index id := by
  obtain ⟨shape, node, known, fit, found, same⟩ := shown
  exact ⟨shape, node, known, fit, grown.node? found, same⟩

/-- An operand with an image is given back in the host's layout. -/
theorem Mirrors.resultNode_ok (mirrors : Mirrors partition tensors fits shapes builder)
    (low : ∀ type, fits type → type.1.length ≤ 4) {index : OperandIndex}
    (bound : builder.Bound index) (written : shapes index ≠ none) :
    ∃ id after, Builder.resultNode index builder = .ok id after ∧
      builder.Moves after builder.registry ∧ Shows fits shapes after.graph index id := by
  obtain ⟨id, known⟩ := bound
  rcases mirrors.nodes index id known with ⟨shape, elementType, here, fit, typed⟩ | ⟨none, _⟩
  · obtain ⟨batch, height, width, channels, image⟩ :=
      Shape.exists_image (Shape.length_padLeft (low _ fit))
    have engine : Layout.engineShape shape = [batch, channels, height, width] := by
      rw [Layout.engineShape, image]
      rfl
    rw [engine] at typed
    obtain ⟨result, after, ran, moves, node, found, type⟩ := Builder.resultNode_ok known typed
    have element : node.elementType = elementType := congrArg Prod.snd type
    refine ⟨result, after, ran, moves, shape, node, here, ?_, found,
      (congrArg Prod.fst type).trans image.symm⟩
    rw [element]
    exact fit
  · exact absurd none written

theorem Mirrors.resultNodes_ok (low : ∀ type, fits type → type.1.length ≤ 4)
    {outputs : List OperandIndex} :
    ∀ {builder : Builder}, Mirrors partition tensors fits shapes builder →
      (∀ index ∈ outputs, builder.Bound index ∧ shapes index ≠ none) →
      ∃ ids after, Builder.resultNodes outputs builder = .ok ids after ∧
        builder.graph.Extends after.graph ∧ after.results = builder.results ∧
        List.Forall₂ (Shows fits shapes after.graph) outputs ids := by
  induction outputs with
  | nil =>
    intro builder _ _
    exact ⟨[], builder, rfl, .refl _, rfl, .nil⟩
  | cons index rest ih =>
    intro builder mirrors ready
    obtain ⟨bound, written⟩ := ready index List.mem_cons_self
    obtain ⟨id, between, ran, moves, shown⟩ := mirrors.resultNode_ok low bound written
    have ready' : ∀ other ∈ rest, between.Bound other ∧ shapes other ≠ none := by
      intro other member
      obtain ⟨⟨id', known⟩, written⟩ := ready other (List.mem_cons_of_mem _ member)
      exact ⟨⟨id', by rw [moves.registry_eq, known]⟩, written⟩
    obtain ⟨ids, after, ran', longer, results, shown'⟩ := ih (mirrors.same moves) ready'
    refine ⟨id :: ids, after, ?_, moves.longer.trans longer, results.trans moves.results_eq,
      .cons (shown.mono longer) shown'⟩
    rw [Builder.resultNodes, run_bind_of_ok ran, run_bind_of_ok ran']
    rfl

theorem of_resultNode {index : OperandIndex} {id : NodeId}
    (ran : Builder.resultNode index builder = .ok id after) :
    builder.Bound index ∧ after.registry = builder.registry := by
  obtain ⟨source, held, shape⟩ := Builder.resultNode_eq_ok.1 ran
  rcases shape with ⟨_, draft, _, rfl⟩ | ⟨_, _, rfl⟩
  · exact ⟨⟨source, held⟩, rfl⟩
  · exact ⟨⟨source, held⟩, rfl⟩

theorem bound_of_resultNodes {outputs : List OperandIndex} :
    ∀ {builder after : Builder} {ids : List NodeId},
      Builder.resultNodes outputs builder = .ok ids after → ∀ index ∈ outputs, builder.Bound index := by
  induction outputs with
  | nil =>
    intro builder after ids _
    exact nofun
  | cons index rest ih =>
    intro builder after ids ran
    obtain ⟨first, between, ran, later⟩ := run_bind_eq_ok.1 ran
    obtain ⟨_, _, later, _⟩ := run_bind_eq_ok.1 later
    obtain ⟨bound, registry⟩ := of_resultNode ran
    intro other member
    rcases List.mem_cons.1 member with rfl | member
    · exact bound
    · obtain ⟨id, held⟩ := ih later other member
      exact ⟨id, by rw [← registry, held]⟩

end Results

/-! ## Partitions -/

section Partitions

variable {partition : Partition} {tensors : TensorContext} {settings : Settings}

structure Lowers (partition : Partition) (tensors : TensorContext) (inputs : List OperandIndex)
    (built last : Builder) (ids : List NodeId) : Prop where
  nodes : partition.nodes ≠ []
  outputs : partition.outputs ≠ []
  lowered : partition.lowerNodes tensors partition.nodes {} = .ok inputs built
  results : Builder.resultNodes partition.outputs built = .ok ids last

def Partition.lowered (partition : Partition) (settings : Settings) (inputs : List OperandIndex)
    (last : Builder) (ids : List NodeId) : LoweredPartition where
  model := ⟨last.graph, last.parameters, last.results ++ ids⟩
  computeInputs := inputs
  outputs := partition.outputs
  device := settings.device

/-- A lowering succeeds where its steps do, and gives what they leave. -/
theorem Lowers.lower_ok {inputs : List OperandIndex} {built last : Builder} {ids : List NodeId}
    (lowers : Lowers partition tensors inputs built last ids) (settings : Settings) :
    partition.lower tensors settings = .ok (partition.lowered settings inputs last ids) := by
  obtain ⟨nodes, outputs, ran, results⟩ := lowers
  let finished : Builder := { last with results := last.results ++ ids }
  have finalized : Builder.finalize partition.outputs built = .ok () finished := by
    unfold Builder.finalize
    simp only [outputs, if_false]
    rw [run_bind_of_ok results]
    rfl
  have build : ∃ after, partition.build tensors settings {} = .ok inputs after ∧
      after.model = finished.model := by
    unfold Partition.build
    simp only [nodes, if_false]
    rw [run_bind_of_ok ran, run_bind_of_ok finalized]
    exact ⟨_, rfl, rfl⟩
  obtain ⟨after, built, model⟩ := build
  rw [Partition.lower, Partition.lowerWithJournal, built]
  dsimp only
  rw [model]
  rfl

theorem Lowers.lower_eq {inputs : List OperandIndex} {built last : Builder} {ids : List NodeId}
    (lowers : Lowers partition tensors inputs built last ids) (settings : Settings) :
    ∃ lowered, partition.lower tensors settings = .ok lowered ∧
      lowered.model.graph = last.graph ∧ lowered.model.results = last.results ++ ids :=
  ⟨_, lowers.lower_ok settings, rfl, rfl⟩

theorem lowers_of_lower {lowered : LoweredPartition}
    (success : partition.lower tensors settings = .ok lowered) :
    ∃ inputs built last ids, Lowers partition tensors inputs built last ids := by
  rw [Partition.lower, Partition.lowerWithJournal] at success
  cases outcome : partition.build tensors settings {} with
  | error failure builder =>
    rw [outcome] at success
    cases success
  | ok inputs builder =>
    unfold Partition.build at outcome
    by_cases empty : partition.nodes = []
    · simp only [empty, if_true] at outcome
      cases outcome
    · simp only [empty, if_false] at outcome
      obtain ⟨given, built, ran, rest⟩ := run_bind_eq_ok.1 outcome
      obtain ⟨_, _, finalized, _⟩ := run_bind_eq_ok.1 rest
      unfold Builder.finalize at finalized
      by_cases none : partition.outputs = []
      · simp only [none, if_true] at finalized
        cases finalized
      · simp only [none, if_false] at finalized
        obtain ⟨ids, last, results, _⟩ := run_bind_eq_ok.1 finalized
        exact ⟨given, built, last, ids, empty, none, ran, results⟩

theorem lower_eq_ok {lowered : LoweredPartition} :
    partition.lower tensors settings = .ok lowered ↔
      ∃ inputs built last ids, Lowers partition tensors inputs built last ids ∧
        lowered = partition.lowered settings inputs last ids := by
  constructor
  · intro success
    obtain ⟨inputs, built, last, ids, lowers⟩ := lowers_of_lower success
    refine ⟨inputs, built, last, ids, lowers, ?_⟩
    rw [lowers.lower_ok settings] at success
    exact (Except.ok.inj success).symm
  · rintro ⟨inputs, built, last, ids, lowers, rfl⟩
    exact lowers.lower_ok settings

end Partitions

end PartitionLowering
