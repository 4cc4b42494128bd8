import PartitionLowering.Proofs.Lowering.Additions
import PartitionLowering.Proofs.Lowering.WellFormed

/-!
The parameters of a graph and the parameters of its model.  A call adds to both alike, with one exception:
a graph input that cannot be brought into its layout leaves the parameter that it was given
(`Call.strands`).  Main statement: `parameters_afterCalls`, on how far the two lists differ after any run
of calls, those that failed included.
-/

set_option autoImplicit false

namespace PartitionLowering.Builder

/-! ## Steps that add no parameter -/

section Steps

variable {α β : Type} {builder : Builder}

structure KeepsParameters (before after : Builder) : Prop where
  ids : after.graph.parameterIds = before.graph.parameterIds
  listed : after.parameters = before.parameters

theorem KeepsParameters.refl (builder : Builder) : builder.KeepsParameters builder :=
  ⟨rfl, rfl⟩

theorem KeepsParameters.trans {first second third : Builder} (early : first.KeepsParameters second)
    (late : second.KeepsParameters third) : first.KeepsParameters third :=
  ⟨late.ids.trans early.ids, late.listed.trans early.listed⟩

def Keeping (step : Build α) (builder : Builder) : Prop :=
  Takes KeepsParameters (fun _ => True) (fun _ _ => True) step builder

theorem keeping_lift (lookup : Except Failure α) : Keeping (liftM lookup) builder :=
  (takes_lift (.refl builder) fun _ _ => trivial).imp (fun _ => id) fun _ _ _ => trivial

theorem Keeping.bind {step : Build α} {next : α → Build β} (first : Keeping step builder)
    (rest : ∀ value after, Keeping (next value) after) : Keeping (step >>= next) builder :=
  Takes.bind .trans first fun value after _ _ => rest value after

theorem keeping_get {next : Builder → Build α} (rest : Keeping (next builder) builder) :
    Keeping (get >>= next) builder :=
  takes_get rest

theorem keeping_pure (value : α) : Keeping (pure value) builder :=
  takes_of_ok rfl (.refl builder) trivial

theorem keeping_throw (failure : Failure) : Keeping (throw failure : Build α) builder :=
  takes_of_error rfl (.refl builder) trivial

theorem keeping_emitting {Shows : Graph → α → Prop} {step : Emit α}
    (adding : Adding Shows step builder.draft) : Keeping (emitting step) builder := by
  cases ran : step builder.draft with
  | error failure draft =>
    have lengthens := (adding.of_error ran).1
    exact takes_of_error (emitting_of_error ran) ⟨lengthens.parameters, rfl⟩ trivial
  | ok value draft =>
    have lengthens := (adding.of_ok ran).1
    exact takes_of_ok (emitting_of_ok ran) ⟨lengthens.parameters, rfl⟩ trivial

/-- What is bound and noted leaves the parameters alone. -/
theorem keeping_bind (index : OperandIndex) (node : NodeId) (event : Event) :
    Keeping (do
      bind index node
      note event) builder :=
  takes_of_ok rfl ⟨rfl, rfl⟩ trivial

end Steps

theorem keeping_registerConstant (tensor : Tensor) (index : OperandIndex) (builder : Builder) :
    Keeping (registerConstant tensor index) builder := by
  apply (keeping_lift (constantContent tensor index)).bind
  rintro ⟨elementType, shape, data⟩ after
  apply keeping_get
  cases added : after.graph.addConstant elementType shape data with
  | error error => exact keeping_throw _
  | ok result =>
    obtain ⟨_, rfl⟩ := Graph.addConstant_eq_ok.1 added
    have adds : Adding Whatever
        (Emit.keep (after.graph.push (.constant data) [] (shape, elementType))) after.draft :=
      adding_keep Op.noConfusion [] (shape, elementType)
    apply (keeping_emitting adds).bind
    intro node last
    exact keeping_bind index node.id _

theorem keeping_lowerNode (id : Int32) (node : ScheduledNode) (tensors : TensorContext)
    (builder : Builder) : Keeping (lowerNode id node tensors) builder := by
  apply (keeping_lift (target id node)).bind
  rintro ⟨output, recipe⟩ after
  apply keeping_get
  apply (keeping_emitting (recipe.adding_emit node.options)).bind
  intro result last
  exact keeping_bind output result _

theorem keeping_resultNode (index : OperandIndex) (builder : Builder) :
    Keeping (resultNode index) builder := by
  apply keeping_get
  apply (keeping_lift (builder.registry.node index)).bind
  intro node after
  by_cases image : (builder.graph.node? node).any (·.rank = 4) = true
  · rw [if_pos image]
    exact keeping_emitting (adding_toHost node)
  · rw [if_neg image]
    exact keeping_pure node

theorem keeping_resultNodes (outputs : List OperandIndex) (builder : Builder) :
    Keeping (resultNodes outputs) builder := by
  induction outputs generalizing builder with
  | nil => exact keeping_pure []
  | cons index rest ih =>
    apply (keeping_resultNode index builder).bind
    intro node first
    apply (ih first).bind
    intro nodes last
    exact keeping_pure (node :: nodes)

theorem keeping_finalize (outputs : List OperandIndex) (builder : Builder) :
    Keeping (finalize outputs) builder := by
  unfold finalize
  by_cases none : outputs = []
  · rw [if_pos none]
    exact keeping_throw _
  · rw [if_neg none]
    apply (keeping_resultNodes outputs builder).bind
    intro nodes last
    exact takes_of_ok rfl ⟨rfl, rfl⟩ trivial

theorem keepsParameters_after (call : Call) {builder : Builder} (keeping : Keeping call.run builder) :
    builder.KeepsParameters (call.after builder) := by
  rw [Call.after]
  cases ran : call.run builder with
  | error failure after => exact (keeping.of_error ran).1
  | ok value after => exact (keeping.of_ok ran).1

/-! ## Graph inputs -/

/-- A graph input that is given a parameter and cannot be brought into its layout: its dims are not those
of an image, and a shape of so many elements cannot be reshaped. -/
def Call.strands : Call → Bool
  | .registerInput tensor index =>
    match inputType tensor index with
    | .ok (_, shape) => decide (shape.length < 4) && (Shape.elementCount? shape).isNone
    | .error _ => false
  | _ => false

section Inputs

variable {tensor : Tensor} {index : OperandIndex} {elementType : ElementType} {shape : Shape}

theorem strands_registerInput (typed : inputType tensor index = .ok (elementType, shape)) :
    (Call.registerInput tensor index).strands = true ↔
      ¬(tensor.dims.length = 4 ∨ Shape.elementCount? shape ≠ none) := by
  obtain ⟨_, _, low, _, shaped⟩ := inputType_eq_ok.1 typed
  have low : tensor.dims.length ≤ 4 := low
  have lengths : shape.length = tensor.dims.length := by
    rw [(Layout.shape_eq_ok.1 shaped).2, List.length_map]
  simp only [Call.strands, typed, Bool.and_eq_true, decide_eq_true_iff, Option.isNone_iff_eq_none,
    not_or, ne_eq, not_not, lengths]
  exact and_congr_left fun _ => ⟨Nat.ne_of_lt, fun other => by omega⟩

theorem registerInput_of_error {builder : Builder} {failure : Failure} {draft : Draft}
    (typed : inputType tensor index = .ok (elementType, shape))
    (failed : Layout.toEngine tensor.dims builder.graph.size
      (builder.withParameter elementType shape) = .error failure draft) :
    registerInput tensor index builder = .error failure { builder with draft } := by
  have added : emitting (Emit.parameter elementType shape) builder =
      .ok (builder.graph.addParameter elementType shape).1
        { builder with draft := builder.withParameter elementType shape } := rfl
  unfold registerInput
  rw [run_bind_of_ok (run_lift_ok typed builder)]
  dsimp only
  rw [run_bind_of_ok added]
  exact run_bind_of_error (emitting_of_error failed) _

/-- A parameter that cannot be brought into its layout is just one for which there is no room. -/
theorem toEngine_error_iff (builder : Builder)
    (typed : inputType tensor index = .ok (elementType, shape)) :
    (∃ failure draft, Layout.toEngine tensor.dims builder.graph.size
      (builder.withParameter elementType shape) = .error failure draft) ↔
        (Call.registerInput tensor index).strands = true := by
  rw [strands_registerInput typed]
  constructor
  · rintro ⟨failure, draft, failed⟩ room
    obtain ⟨_, _, ran, _⟩ := registerInput_ok typed room builder
    cases (registerInput_of_error typed failed).symm.trans ran
  · intro full
    cases converted : Layout.toEngine tensor.dims builder.graph.size
        (builder.withParameter elementType shape) with
    | error failure draft => exact ⟨failure, draft, rfl⟩
    | ok id draft =>
      obtain ⟨_, _, _, _, _, _, _, four | ⟨_, counted⟩⟩ := Layout.of_toEngine converted
      · exact absurd (.inl four.1) full
      · have held := Graph.node?_push_self builder.graph .parameter [] (shape, elementType)
        exact absurd (.inr (counted _ held)) full

end Inputs

/-! ## Calls -/

structure Call.Parametrizes (call : Call) (before after : Builder) (fresh : List NodeId) : Prop where
  ids : after.graph.parameterIds = before.graph.parameterIds ++ fresh
  listed : after.parameters = before.parameters ++ if call.strands then [] else fresh
  stranded : call.strands = true → fresh.length = 1

theorem KeepsParameters.parametrizes {call : Call} {before after : Builder}
    (keeps : before.KeepsParameters after) (calm : call.strands = false) :
    call.Parametrizes before after [] where
  ids := by rw [keeps.ids, List.append_nil]
  listed := by rw [keeps.listed, ite_self, List.append_nil]
  stranded strands := by
    rw [calm] at strands
    cases strands

theorem parametrizes_registerInput (tensor : Tensor) (index : OperandIndex) (builder : Builder) :
    ∃ fresh, Call.Parametrizes (.registerInput tensor index) builder
      ((Call.registerInput tensor index).after builder) fresh := by
  cases typed : inputType tensor index with
  | error failure =>
    have same : (Call.registerInput tensor index).after builder = builder := by
      rw [Call.after, Call.run, registerInput, run_bind_of_error (run_lift_error typed builder)]
    have calm : (Call.registerInput tensor index).strands = false := by rw [Call.strands, typed]
    refine ⟨[], KeepsParameters.parametrizes ?_ calm⟩
    rw [same]
    exact .refl builder
  | ok type =>
    obtain ⟨elementType, shape⟩ := type
    have added : (builder.withParameter elementType shape).graph.parameterIds =
        builder.graph.parameterIds ++ [builder.graph.size] :=
      Graph.parameterIds_push builder.graph .parameter [] (shape, elementType)
    have adding : Adding Whatever (Layout.toEngine tensor.dims builder.graph.size)
        (builder.withParameter elementType shape) := adding_toEngine _ _
    have fails := toEngine_error_iff builder typed
    refine ⟨[builder.graph.size], ?_⟩
    cases converted : Layout.toEngine tensor.dims builder.graph.size
        (builder.withParameter elementType shape) with
    | error failure draft =>
      have strands := fails.1 ⟨failure, draft, converted⟩
      have lengthens := (adding.of_error converted).1
      rw [Call.after, Call.run, registerInput_of_error typed converted]
      refine ⟨lengthens.parameters.trans added, ?_, fun _ => rfl⟩
      rw [if_pos strands, List.append_nil]
    | ok id draft =>
      have calm : ¬(Call.registerInput tensor index).strands = true := by
        intro strands
        obtain ⟨failure, draft', failed⟩ := fails.2 strands
        cases failed.symm.trans converted
      have lengthens := (adding.of_ok converted).1
      obtain ⟨after, ran, leaves⟩ := registerInput_of_ok typed converted
      rw [Call.after, Call.run, ran]
      refine ⟨?_, ?_, fun _ => rfl⟩
      · rw [leaves.graph_eq, lengthens.parameters, added]
      · rw [if_neg calm, leaves.parameters_eq]

/-- The step: what a call adds to the parameters of the graph it lists, unless it strands one. -/
theorem parametrizes_after (call : Call) (builder : Builder) :
    ∃ fresh, call.Parametrizes builder (call.after builder) fresh := by
  cases call with
  | registerInput tensor index => exact parametrizes_registerInput tensor index builder
  | registerConstant tensor index =>
    have keeps := keepsParameters_after (.registerConstant tensor index)
      (keeping_registerConstant tensor index builder)
    exact ⟨[], keeps.parametrizes rfl⟩
  | lowerNode id node tensors =>
    have keeps := keepsParameters_after (.lowerNode id node tensors)
      (keeping_lowerNode id node tensors builder)
    exact ⟨[], keeps.parametrizes rfl⟩
  | finalize outputs =>
    have keeps := keepsParameters_after (.finalize outputs) (keeping_finalize outputs builder)
    exact ⟨[], keeps.parametrizes rfl⟩

theorem afterCalls_concat (earlier : List Call) (call : Call) :
    afterCalls (earlier ++ [call]) = call.after (afterCalls earlier) := by
  rw [afterCalls, List.foldl_concat, afterCalls]

/-- The parameters of a model are some of its graph's, in order; the others are those that calls have
stranded, one for each. -/
theorem sublist_parameterIds (calls : List Call) :
    (afterCalls calls).parameters.Sublist (afterCalls calls).graph.parameterIds ∧
      (afterCalls calls).graph.parameterIds.length =
        (afterCalls calls).parameters.length + calls.countP Call.strands := by
  induction calls using List.reverseRecOn with
  | nil => exact ⟨List.Sublist.refl [], rfl⟩
  | append_singleton earlier call ih =>
    obtain ⟨sublist, lengths⟩ := ih
    obtain ⟨fresh, ids, listed, stranded⟩ := parametrizes_after call (afterCalls earlier)
    rw [afterCalls_concat, ids, listed, List.countP_append, List.countP_singleton]
    cases strands : call.strands with
    | true =>
      have one := stranded strands
      simp only [if_true, List.append_nil, List.length_append]
      exact ⟨sublist.trans (List.sublist_append_left _ _), by omega⟩
    | false =>
      simp only [Bool.false_eq_true, if_false, List.length_append]
      exact ⟨sublist.append (List.Sublist.refl fresh), by omega⟩

/-- After any run of calls the parameters of the model are some of the graph's, in order; each call that
strands one makes for one that is missing, so that the two lists are the same just where no call has. -/
theorem parameters_afterCalls (calls : List Call) :
    (afterCalls calls).model.parameters.Sublist (afterCalls calls).model.graph.parameterIds ∧
      (afterCalls calls).model.graph.parameterIds.length =
        (afterCalls calls).model.parameters.length + calls.countP Call.strands ∧
      ((afterCalls calls).model.graph.parameterIds = (afterCalls calls).model.parameters ↔
        ∀ call ∈ calls, call.strands = false) := by
  obtain ⟨sublist, lengths⟩ := sublist_parameterIds calls
  have none : calls.countP Call.strands = 0 ↔ ∀ call ∈ calls, call.strands = false := by
    simp [List.countP_eq_zero]
  refine ⟨sublist, lengths, ?_⟩
  rw [← none]
  constructor
  · intro same
    have listed : (afterCalls calls).graph.parameterIds = (afterCalls calls).parameters := same
    rw [listed] at lengths
    omega
  · intro calm
    have counts : (afterCalls calls).parameters.length =
        (afterCalls calls).graph.parameterIds.length := by omega
    exact (sublist.eq_of_length counts).symm

namespace StrandedExample

/-- Three dims, and more elements than a word can count. -/
def oversized : Tensor where
  tensorType := .float32
  dims := [2147483647, 2147483647, 2147483647]

def register : Call := .registerInput oversized 0

end StrandedExample

open StrandedExample in
/-- A graph input that is refused leaves its parameter in the graph. -/
theorem refused_input_leaves_parameter :
    register.succeeds {} = false ∧
      (afterCalls [register, .finalize [0]]).model.graph.parameterIds = [0] ∧
      (afterCalls [register, .finalize [0]]).model.parameters = [] := by
  decide +kernel

end PartitionLowering.Builder
