import Mathlib.Data.List.Induction
import PartitionLowering.Proofs.Lowering.Calls

/-!
What holds of a builder after any run of calls, those that failed included: operands and results stand
for nodes that are there, a flagged operand is bound, the parameters are parameters of the graph in
increasing order, and the graph is regular (`wellFormed_afterCalls`).  One call keeps a builder
well-formed (`WellFormed.after`); what it has to see to is told once, by `WellFormed.commits`.
-/

set_option autoImplicit false

namespace PartitionLowering.Builder

structure WellFormed (builder : Builder) : Prop where
  bound : ∀ index id, builder.registry.node? index = some id → builder.graph.HasId id
  flagged : ∀ index, builder.registry.isFlagged index = true →
    ∃ id, builder.registry.node? index = some id
  parameters : ∀ id ∈ builder.parameters,
    ∃ node, builder.graph.node? id = some node ∧ node.op = .parameter
  increasing : builder.parameters.Pairwise (· < ·)
  results : ∀ id ∈ builder.results, builder.graph.HasId id
  regular : builder.graph.RegularAll

theorem wellFormed_empty : WellFormed {} := by
  have unbound : ∀ index, (({} : Registry).node? index) = none := fun _ => rfl
  constructor
  · intro index id bound
    cases (unbound index).symm.trans bound
  · exact nofun
  · exact nofun
  · exact .nil
  · exact nofun
  · intro id node found
    simp [graph, Graph.node?] at found

/-- What a call has to see to where the graph develops. -/
theorem WellFormed.commits {before after : Builder} (wellFormed : before.WellFormed)
    {registry : Registry} {parameters results : List NodeId}
    (commits : before.Commits after registry parameters results)
    (bound : ∀ index id, registry.node? index = some id →
      before.registry.node? index = some id ∨ after.graph.HasId id)
    (flagged : ∀ index, registry.isFlagged index = true →
      ∃ id, registry.node? index = some id)
    (fresh : ∀ id ∈ parameters, before.graph.size ≤ id ∧
      ∃ node, after.graph.node? id = some node ∧ node.op = .parameter)
    (increasing : parameters.Pairwise (· < ·)) (has : ∀ id ∈ results, after.graph.HasId id) :
    after.WellFormed where
  bound := by
    intro index id held
    rw [commits.registry_eq] at held
    rcases bound index id held with old | new
    · exact (wellFormed.bound index id old).mono commits.develops
    · exact new
  flagged := by
    rw [commits.registry_eq]
    exact flagged
  parameters := by
    intro id member
    rw [commits.parameters_eq] at member
    rcases List.mem_append.1 member with old | new
    · obtain ⟨node, held, op⟩ := wellFormed.parameters id old
      exact ⟨node, commits.develops.extends.node? held, op⟩
    · exact (fresh id new).2
  increasing := by
    rw [commits.parameters_eq]
    refine List.pairwise_append.2 ⟨wellFormed.increasing, increasing, ?_⟩
    intro id old id' new
    obtain ⟨node, held, _⟩ := wellFormed.parameters id old
    exact Nat.lt_of_lt_of_le (Graph.lt_size_of_node? held) (fresh id' new).1
  results := by
    intro id member
    rw [commits.results_eq] at member
    rcases List.mem_append.1 member with old | new
    · exact (wellFormed.results id old).mono commits.develops
    · exact has id new
  regular := commits.develops.regularAll wellFormed.regular

theorem WellFormed.spares {before after : Builder} (wellFormed : before.WellFormed)
    (spares : before.Spares after) : after.WellFormed :=
  wellFormed.commits spares (fun _ _ => .inl) wellFormed.flagged nofun .nil nofun

theorem node?_bind_cases {registry : Registry} {index other : OperandIndex} {id found : NodeId}
    (held : (registry.bind index id).node? other = some found) :
    registry.node? other = some found ∨ found = id := by
  by_cases same : other = index
  · subst same
    rw [Registry.node?_bind_self] at held
    exact .inr (Option.some.inj held).symm
  · rw [Registry.node?_bind_of_ne _ _ _ same] at held
    exact .inl held

theorem exists_node?_bind (registry : Registry) (index : OperandIndex) (id : NodeId)
    {other : OperandIndex} (bound : other = index ∨ ∃ found, registry.node? other = some found) :
    ∃ found, (registry.bind index id).node? other = some found := by
  by_cases same : other = index
  · exact ⟨id, by rw [same, Registry.node?_bind_self]⟩
  · rw [Registry.node?_bind_of_ne _ _ _ same]
    exact bound.resolve_left same

theorem WellFormed.bind {before after : Builder} (wellFormed : before.WellFormed)
    {index : OperandIndex} {id : NodeId}
    (commits : before.Commits after (before.registry.bind index id) [] [])
    (has : after.graph.HasId id) : after.WellFormed := by
  apply wellFormed.commits commits
  · intro other found held
    rcases node?_bind_cases held with old | rfl
    · exact .inl old
    · exact .inr has
  · intro other flagged
    rw [Registry.isFlagged_bind] at flagged
    exact exists_node?_bind _ _ _ (.inr (wellFormed.flagged other flagged))
  · exact nofun
  · exact .nil
  · exact nofun

theorem WellFormed.input {before after : Builder} (wellFormed : before.WellFormed)
    {index : OperandIndex} {id : NodeId} {parameter : Node}
    (commits : before.Commits after ((before.registry.bind index id).flag index)
      [before.graph.size] []) (has : after.graph.HasId id)
    (held : after.graph.node? before.graph.size = some parameter) (op : parameter.op = .parameter) :
    after.WellFormed := by
  apply wellFormed.commits commits
  · intro other found held
    rcases node?_bind_cases held with old | rfl
    · exact .inl old
    · exact .inr has
  · intro other flagged
    rw [Registry.isFlagged_flag, Registry.isFlagged_bind, Bool.or_eq_true, decide_eq_true_iff] at flagged
    exact exists_node?_bind _ _ _ (flagged.imp_right (wellFormed.flagged other))
  · intro fresh member
    rw [List.mem_singleton.1 member]
    exact ⟨Nat.le_refl _, parameter, held, op⟩
  · exact List.pairwise_singleton _ _
  · exact nofun

theorem GivenBack.has {before : Builder} {after : Graph} (wellFormed : before.WellFormed)
    (develops : before.graph.Develops after) {index : OperandIndex} {result : NodeId}
    (given : GivenBack before.registry after index result) : after.HasId result := by
  obtain ⟨id, bound, rfl | ⟨order, shape, elementType, transposed, _⟩⟩ := given
  · exact (wellFormed.bound index _ bound).mono develops
  · exact Graph.lt_size_of_node? transposed

theorem WellFormed.finalized {before after : Builder} (wellFormed : before.WellFormed)
    {outputs : List OperandIndex} {results : List NodeId}
    (commits : before.Commits after before.registry [] results)
    (given : List.Forall₂ (GivenBack before.registry after.graph) outputs results) :
    after.WellFormed := by
  apply wellFormed.commits commits (fun _ _ => .inl) wellFormed.flagged nofun .nil
  have develops := commits.develops
  clear commits
  induction given with
  | nil => exact nofun
  | cons first _ ih => exact List.forall_mem_cons.2 ⟨first.has wellFormed develops, ih⟩

theorem wellFormed_of_proceeds {call : Call} {builder : Builder} {Shows : Builder → Prop}
    (wellFormed : builder.WellFormed) (proceeds : Proceeds builder (fun _ => Shows) call.run builder)
    (keeps : ∀ after, Shows after → after.WellFormed) : (call.after builder).WellFormed := by
  rw [Proceeds] at proceeds
  rw [Call.after]
  cases ran : call.run builder with
  | error failure after =>
    rw [ran] at proceeds
    exact wellFormed.spares proceeds
  | ok value after =>
    rw [ran] at proceeds
    exact keeps after proceeds

/-- Any call, failed or not, keeps a builder well-formed. -/
theorem WellFormed.after {builder : Builder} (wellFormed : builder.WellFormed) (call : Call) :
    (call.after builder).WellFormed := by
  cases call with
  | registerInput tensor index =>
    apply wellFormed_of_proceeds wellFormed (proceeds_registerInput tensor index builder)
    rintro after ⟨id, _, _, commits, has, held⟩
    exact wellFormed.input commits has held rfl
  | registerConstant tensor index =>
    apply wellFormed_of_proceeds wellFormed (proceeds_registerConstant tensor index builder)
    rintro after ⟨id, commits, has⟩
    exact wellFormed.bind commits has
  | lowerNode id node tensors =>
    apply wellFormed_of_proceeds wellFormed (proceeds_lowerNode id node tensors builder)
    rintro after ⟨output, result, _, commits, has⟩
    exact wellFormed.bind commits has
  | finalize outputs =>
    apply wellFormed_of_proceeds wellFormed (proceeds_finalize outputs builder)
    rintro after ⟨results, commits, given⟩
    exact wellFormed.finalized commits given

def afterCalls (calls : List Call) : Builder :=
  calls.foldl (fun builder call => call.after builder) {}

theorem wellFormed_afterCalls (calls : List Call) : (afterCalls calls).WellFormed := by
  -- from the end: the last call finds a well-formed builder
  induction calls using List.reverseRecOn with
  | nil => exact wellFormed_empty
  | append_singleton earlier call ih =>
    have step : afterCalls (earlier ++ [call]) = call.after (afterCalls earlier) := by
      simp [afterCalls]
    rw [step]
    exact ih.after call

end PartitionLowering.Builder
