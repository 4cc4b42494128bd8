import PartitionLowering.Proofs.Lowering.Parameters

/-!
What the flag of an operand tells.  An operand is flagged when some call has registered it as a graph
input; it stands for a graph input in the engine's layout (`Builder.Converted`) when the last call that
bound it did (`flag_of_binders`).  The calls that bind an operand are told by `Builder.binders`; one call
keeps what the last of them has brought about, or brings about its own (`ToldBy.after`).
-/

set_option autoImplicit false

namespace PartitionLowering.Builder

/-- An operand stands for a graph input in the engine's layout: a transpose of a parameter, or of a
reshape of one, by the order of the engine's axes. -/
def Converted (builder : Builder) (index : OperandIndex) : Prop :=
  ∃ id image order shape elementType, builder.registry.node? index = some id ∧
    builder.graph.node? id = some ⟨id, .transpose, [image, order], shape, elementType⟩ ∧
    builder.graph.integers? order = some [0, 3, 1, 2] ∧
    (image ∈ builder.parameters ∨ ∃ parameter ∈ builder.parameters, ∃ pattern shape' elementType',
      builder.graph.node? image =
        some ⟨image, .reshape false, [parameter, pattern], shape', elementType'⟩)

def Unturned (builder : Builder) (index : OperandIndex) : Prop :=
  ∃ id node, builder.registry.node? index = some id ∧ builder.graph.node? id = some node ∧
    node.op ≠ .transpose

theorem Converted.not_unturned {builder : Builder} {index : OperandIndex}
    (converted : builder.Converted index) : ¬builder.Unturned index := by
  obtain ⟨id, image, order, shape, elementType, bound, found, _⟩ := converted
  rintro ⟨id', node, bound', found', other⟩
  cases bound.symm.trans bound'
  cases found.symm.trans found'
  exact other rfl

section Growth

variable {before after : Builder} {index : OperandIndex}

/-- What an operand stands for lasts as long as its binding. -/
theorem Converted.mono (converted : before.Converted index)
    (longer : before.graph.Extends after.graph) (listed : before.parameters ⊆ after.parameters)
    (kept : after.registry.node? index = before.registry.node? index) : after.Converted index := by
  obtain ⟨id, image, order, shape, elementType, bound, found, read, source⟩ := converted
  obtain ⟨constant, held, integers⟩ := Option.bind_eq_some_iff.1 read
  refine ⟨id, image, order, shape, elementType, kept.trans bound, longer.node? found,
    Option.bind_eq_some_iff.2 ⟨constant, longer.node? held, integers⟩, ?_⟩
  rcases source with parameter | ⟨parameter, member, pattern, shape', elementType', reshaped⟩
  · exact .inl (listed parameter)
  · exact .inr ⟨parameter, listed member, pattern, shape', elementType', longer.node? reshaped⟩

theorem Unturned.mono (unturned : before.Unturned index) (longer : before.graph.Extends after.graph)
    (kept : after.registry.node? index = before.registry.node? index) : after.Unturned index := by
  obtain ⟨id, node, bound, found, other⟩ := unturned
  exact ⟨id, node, kept.trans bound, longer.node? found, other⟩

end Growth

/-! ## Calls that bind -/

namespace Call

def operand? : Call → Option OperandIndex
  | registerInput _ index | registerConstant _ index => some index
  | lowerNode _ node _ => node.outputs.head?
  | finalize _ => none

def isInput : Call → Bool
  | registerInput _ _ => true
  | _ => false

def binds (call : Call) (builder : Builder) (index : OperandIndex) : Bool :=
  call.succeeds builder && decide (call.operand? = some index)

end Call

/-- The calls that let an operand stand for a node, in order. -/
def binders (index : OperandIndex) : Builder → List Call → List Call
  | _, [] => []
  | builder, call :: later =>
    (if call.binds builder index then [call] else []) ++ binders index (call.after builder) later

theorem binders_concat (index : OperandIndex) (builder : Builder) (earlier : List Call) (call : Call) :
    binders index builder (earlier ++ [call]) =
      binders index builder earlier ++
        if call.binds (earlier.foldl (fun builder call => call.after builder) builder) index then [call]
        else [] := by
  induction earlier generalizing builder with
  | nil => exact List.append_nil _
  | cons first later ih =>
    simp only [List.cons_append, binders, ih, List.foldl_cons, List.append_assoc]
    rfl

section Bound

variable {builder after : Builder} {index : OperandIndex}

theorem converted_of_registerInput {tensor : Tensor}
    (ran : registerInput tensor index builder = .ok () after) :
    after.registry.isFlagged index = true ∧ after.Converted index := by
  obtain ⟨elementType, shape, id, draft, typed, converted, leaves⟩ := registerInput_leaves ran
  obtain ⟨_, image, order, shape, elementType, found, read, source⟩ := Layout.of_toEngine converted
  refine ⟨?_, id, image, order, shape, elementType, ?_, ?_, ?_, ?_⟩
  · simp [leaves.registry_eq, Registry.isFlagged_flag]
  · simp [leaves.registry_eq]
  · rw [leaves.graph_eq, found]
  · rw [leaves.graph_eq, read]
  · rw [leaves.parameters_eq, leaves.graph_eq]
    rcases source with ⟨_, rfl⟩ | ⟨⟨pattern, shape', elementType', reshaped, _⟩, _⟩
    · exact .inl (by simp)
    · exact .inr ⟨builder.graph.size, by simp, pattern, shape', elementType', reshaped⟩

theorem unturned_of_registerConstant {tensor : Tensor}
    (ran : registerConstant tensor index builder = .ok () after) :
    after.registry.isFlagged index = builder.registry.isFlagged index ∧ after.Unturned index := by
  obtain ⟨elementType, shape, data, _, _, _, moves, held⟩ := registerConstant_eq_ok ran
  have other : Op.constant data ≠ .transpose := Op.noConfusion
  refine ⟨?_, builder.graph.size, _, ?_, held, other⟩
  · rw [moves.registry_eq, Registry.isFlagged_bind]
  · rw [moves.registry_eq, Registry.node?_bind_self]

theorem unturned_of_lowerNode {id : Int32} {node : ScheduledNode} {tensors : TensorContext}
    (ran : lowerNode id node tensors builder = .ok () after)
    (first : node.outputs.head? = some index) :
    after.registry.isFlagged index = builder.registry.isFlagged index ∧ after.Unturned index := by
  obtain ⟨output, recipe, result, draft, known, emitted, leaves⟩ := lowerNode_leaves ran
  obtain ⟨_, head, _⟩ := target_eq_ok.1 known
  cases head.symm.trans first
  have adding : Adding Graph.Computes
      (recipe.emit ⟨builder.registry, tensors⟩ node.inputs node.options) builder.draft :=
    recipe.adding_emit node.options
  obtain ⟨_, last, found, computes⟩ := adding.of_ok emitted
  refine ⟨?_, result, last, ?_, ?_, ?_⟩
  · rw [leaves.registry_eq, Registry.isFlagged_bind]
  · rw [leaves.registry_eq, Registry.node?_bind_self]
  · rw [leaves.graph_eq, found]
  · intro same
    rw [same] at computes
    cases computes

/-- What a call leaves that binds an operand. -/
theorem told_of_binds {call : Call} (binds : call.binds builder index = true) :
    (call.after builder).registry.isFlagged index =
        (call.isInput || builder.registry.isFlagged index) ∧
      if call.isInput then (call.after builder).Converted index
      else (call.after builder).Unturned index := by
  rw [Call.binds, Bool.and_eq_true, decide_eq_true_iff] at binds
  obtain ⟨succeeds, operand⟩ := binds
  rw [Call.succeeds] at succeeds
  rw [Call.after]
  cases ran : call.run builder with
  | error failure after =>
    rw [ran] at succeeds
    cases succeeds
  | ok value after =>
    cases call with
    | registerInput tensor index' =>
      cases operand
      exact converted_of_registerInput ran
    | registerConstant tensor index' =>
      cases operand
      exact unturned_of_registerConstant ran
    | lowerNode id node tensors => exact unturned_of_lowerNode ran operand
    | finalize outputs => cases operand

end Bound

def RegisteredAlike (before after : Registry) (index : OperandIndex) : Prop :=
  after.node? index = before.node? index ∧ after.isFlagged index = before.isFlagged index

theorem registeredAlike_bind {registry : Registry} {bound index : OperandIndex} {id : NodeId}
    (apart : index ≠ bound) : RegisteredAlike registry (registry.bind bound id) index :=
  ⟨Registry.node?_bind_of_ne _ _ _ apart, rfl⟩

/-- Any call extends the graph and the list of parameters, and changes nothing about the operands that it
does not bind. -/
theorem commits_after (call : Call) (builder : Builder) :
    ∃ registry parameters results, builder.Commits (call.after builder) registry parameters results ∧
      ∀ index, call.binds builder index = false → RegisteredAlike builder.registry registry index := by
  have proceeds : Proceeds builder
      (fun _ after => ∃ registry parameters results,
        builder.Commits after registry parameters results ∧
          ∀ index, call.operand? ≠ some index → RegisteredAlike builder.registry registry index)
      call.run builder := by
    cases call with
    | registerInput tensor bound =>
      apply (proceeds_registerInput tensor bound builder).imp
      rintro _ after ⟨id, _, _, commits, _⟩
      refine ⟨_, _, _, commits, fun index other => ?_⟩
      have apart : index ≠ bound := fun same => other (congrArg some same.symm)
      obtain ⟨node, flagged⟩ := registeredAlike_bind apart
      exact ⟨node, by rw [Registry.isFlagged_flag, flagged, decide_eq_false apart, Bool.false_or]⟩
    | registerConstant tensor bound =>
      apply (proceeds_registerConstant tensor bound builder).imp
      rintro _ after ⟨id, commits, _⟩
      exact ⟨_, _, _, commits, fun index other =>
        registeredAlike_bind fun same => other (congrArg some same.symm)⟩
    | lowerNode id node tensors =>
      apply (proceeds_lowerNode id node tensors builder).imp
      rintro _ after ⟨output, result, first, commits, _⟩
      exact ⟨_, _, _, commits, fun index other =>
        registeredAlike_bind fun same => other (same ▸ first)⟩
    | finalize outputs =>
      apply (proceeds_finalize outputs builder).imp
      rintro _ after ⟨results, commits, _⟩
      exact ⟨_, _, _, commits, fun _ _ => ⟨rfl, rfl⟩⟩
  rw [Proceeds] at proceeds
  rw [Call.after]
  simp only [Call.binds, Call.succeeds]
  cases ran : call.run builder with
  | error failure after =>
    rw [ran] at proceeds
    exact ⟨_, _, _, proceeds, fun _ _ => ⟨rfl, rfl⟩⟩
  | ok value after =>
    rw [ran] at proceeds
    simpa using proceeds

/-! ## Runs of calls -/

/-- What an operand stands for, and whether it is flagged, told by the calls that have bound it. -/
structure ToldBy (builder : Builder) (index : OperandIndex) (binders : List Call) : Prop where
  flagged : builder.registry.isFlagged index = binders.any Call.isInput
  free : binders = [] → builder.registry.node? index = none
  bound : ∀ call, binders.getLast? = some call →
    if call.isInput then builder.Converted index else builder.Unturned index

theorem ToldBy.after {builder : Builder} {index : OperandIndex} {earlier : List Call}
    (told : builder.ToldBy index earlier) (call : Call) :
    (call.after builder).ToldBy index
      (earlier ++ if call.binds builder index then [call] else []) := by
  cases binds : call.binds builder index with
  | true =>
    obtain ⟨flagged, bound⟩ := told_of_binds binds
    rw [if_pos rfl]
    refine ⟨?_, by simp, ?_⟩
    · rw [flagged, told.flagged, List.any_append, List.any_cons, List.any_nil, Bool.or_false,
        Bool.or_comm]
    · intro last ends
      rw [List.getLast?_concat] at ends
      cases ends
      exact bound
  | false =>
    obtain ⟨registry, parameters, results, commits, alike⟩ := commits_after call builder
    obtain ⟨node, flagged⟩ := alike index binds
    rw [← commits.registry_eq] at node flagged
    rw [if_neg Bool.false_ne_true, List.append_nil]
    refine ⟨flagged.trans told.flagged, fun none => node.trans (told.free none), ?_⟩
    intro last ends
    have bound := told.bound last ends
    have longer := commits.develops.extends
    have listed : builder.parameters ⊆ (call.after builder).parameters := by
      rw [commits.parameters_eq]
      exact List.subset_append_left _ _
    cases input : last.isInput with
    | true =>
      rw [input, if_pos rfl] at bound
      exact bound.mono longer listed node
    | false =>
      rw [input, if_neg Bool.false_ne_true] at bound
      exact bound.mono longer node

theorem toldBy_afterCalls (calls : List Call) (index : OperandIndex) :
    (afterCalls calls).ToldBy index (binders index {} calls) := by
  induction calls using List.reverseRecOn with
  | nil =>
    refine ⟨rfl, fun _ => rfl, fun call last => ?_⟩
    cases last
  | append_singleton earlier call ih =>
    rw [afterCalls_concat, binders_concat]
    exact ih.after call

/-- After any run of calls an operand is flagged where some call has registered it as a graph input, and
stands for a graph input in the engine's layout where the last call that bound it has. -/
theorem flag_of_binders (calls : List Call) (index : OperandIndex) :
    (afterCalls calls).registry.isFlagged index = (binders index {} calls).any Call.isInput ∧
      ((afterCalls calls).Converted index ↔
        (binders index {} calls).getLast?.any Call.isInput = true) := by
  have told := toldBy_afterCalls calls index
  refine ⟨told.flagged, ?_⟩
  cases last : (binders index {} calls).getLast? with
  | none =>
    have free := told.free (List.getLast?_eq_none_iff.1 last)
    refine ⟨?_, nofun⟩
    rintro ⟨id, _, _, _, _, bound, _⟩
    cases free.symm.trans bound
  | some call =>
    have bound := told.bound call last
    rw [Option.any_some]
    cases input : call.isInput with
    | true =>
      rw [input, if_pos rfl] at bound
      exact ⟨fun _ => rfl, fun _ => bound⟩
    | false =>
      rw [input, if_neg Bool.false_ne_true] at bound
      exact ⟨fun converted => absurd bound converted.not_unturned, nofun⟩

namespace ReboundExample

def image : Tensor where
  tensorType := .float32
  dims := [1, 2, 2, 1]

def weights : Tensor :=
  .constantFloat32 [1, 2, 2, 1] [1, 2, 3, 4]

def calls : List Call := [.registerInput image 0, .registerConstant weights 0]

end ReboundExample

open ReboundExample in
/-- An operand keeps its flag when weights take its place. -/
theorem flag_outlives_binding :
    (afterCalls calls).registry.isFlagged 0 = true ∧ ¬(afterCalls calls).Converted 0 := by
  have bound : (((afterCalls calls).registry.node? 0).bind (afterCalls calls).graph.node?).any
      (fun node => node.op ≠ .transpose) = true := by decide +kernel
  refine ⟨by decide +kernel, ?_⟩
  rintro ⟨id, image, order, shape, elementType, held, found, _⟩
  rw [held, Option.bind_some, found] at bound
  cases bound

end PartitionLowering.Builder
