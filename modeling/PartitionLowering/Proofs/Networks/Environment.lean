import PartitionLowering.Proofs.Lowering.Expression
import PartitionLowering.Proofs.Lowering.Gains
import PartitionLowering.Proofs.Networks.Mirror

/-!
A lowering as a function of what stands for its operands.  An `Environment` tells which expression stands
for an operand and which operands the host feeds; `Builder.Denotes` ties it to a builder.  Registering
operands comes to `Environment.provide` (`Denotes.materializeAll`), and a node is lowered alike
wherever its operands stand for the same (`Denotes.lowerNode`), so that ids, and the moment at which an
operand was registered, leave no trace.
-/

set_option autoImplicit false

namespace PartitionLowering

/-! ## Environments -/

/-- Which expressions stand for operands, and which operands are graph inputs. -/
@[ext] structure Environment where
  tree : OperandIndex → Option Expression
  fed : OperandIndex → Prop

structure Offer where
  tree : Option Expression
  fed : Prop

namespace Environment

def empty : Environment :=
  ⟨fun _ => none, fun _ => False⟩

def write (env : Environment) (index : OperandIndex) (tree : Expression) : Environment where
  tree other := if other = index then some tree else env.tree other
  fed := env.fed

/-- An operand for which nothing stands is registered. -/
def take (env : Environment) (index : OperandIndex) (offer : Offer) : Environment where
  tree other := if other = index then offer.tree else env.tree other
  fed other := other = index ∧ offer.fed ∨ env.fed other

def provide (env : Environment) (offers : OperandIndex → Offer) (needs : List OperandIndex) :
    Environment where
  tree other := (env.tree other).or (if other ∈ needs then (offers other).tree else none)
  fed other := env.fed other ∨ env.tree other = none ∧ other ∈ needs ∧ (offers other).fed

variable {env : Environment} {offers : OperandIndex → Offer} {index : OperandIndex}
  {needs more : List OperandIndex}

theorem take_unfed (tree : Expression) : env.take index ⟨some tree, False⟩ = env.write index tree := by
  ext other <;> simp [take, write]

theorem take_nothing (free : env.tree index = none) : env.take index ⟨none, False⟩ = env := by
  ext1
  · funext other
    by_cases here : other = index
    · simp [take, here, free]
    · simp [take, here]
  · funext other
    simp [take]

theorem write_of_ne {other : OperandIndex} (apart : other ≠ index) (tree : Expression) :
    (env.write index tree).tree other = env.tree other :=
  if_neg apart

theorem write_injective {tree tree' : Expression} (same : env.write index tree = env.write index tree') :
    tree = tree' := by
  have here := congrFun (congrArg Environment.tree same) index
  simpa [write] using here

theorem provide_nil : env.provide offers [] = env := by
  ext other <;> simp [provide]

theorem provide_append :
    env.provide offers (needs ++ more) = (env.provide offers needs).provide offers more := by
  ext1
  · funext other
    cases stands : env.tree other with
    | some tree => simp [provide, stands]
    | none =>
      by_cases asked : other ∈ needs
      · cases offered : (offers other).tree <;> simp [provide, stands, asked, offered]
      · simp [provide, stands, asked]
  · funext other
    cases stands : env.tree other with
    | some tree => simp [provide, stands]
    | none =>
      by_cases asked : other ∈ needs
      · simp [provide, stands, asked]
        tauto
      · simp [provide, stands, asked]

theorem provide_singleton_of_some {tree : Expression} (stands : env.tree index = some tree) :
    env.provide offers [index] = env := by
  ext1
  · funext other
    by_cases here : other = index
    · simp [provide, here, stands]
    · simp [provide, here]
  · funext other
    by_cases here : other = index
    · simp [provide, here, stands]
    · simp [provide, here]

theorem provide_singleton_of_none (free : env.tree index = none) :
    env.provide offers [index] = env.take index (offers index) := by
  ext1
  · funext other
    by_cases here : other = index
    · simp [provide, take, here, free]
    · simp [provide, take, here]
  · funext other
    by_cases here : other = index
    · simp [provide, take, here, free, or_comm]
    · simp [provide, take, here]

end Environment

def ReadSame (node : ScheduledNode) (env env' : Environment) : Prop :=
  ∀ index ∈ node.inputs, (0 ≤ index → index ∈ node.neededInputs) →
    env.tree index = env'.tree index ∧ (env.fed index ↔ env'.fed index)

theorem ReadSame.refl (node : ScheduledNode) (env : Environment) : ReadSame node env env :=
  fun _ _ _ => ⟨rfl, Iff.rfl⟩

theorem ReadSame.symm {node : ScheduledNode} {env env' : Environment} (same : ReadSame node env env') :
    ReadSame node env' env := by
  intro index member needed
  obtain ⟨trees, fed⟩ := same index member needed
  exact ⟨trees.symm, fed.symm⟩

/-! ## Builders -/

def namesOf (parameters : List NodeId) (given : List OperandIndex) : Naming :=
  fun id => (parameters.zip given).lookup id

section Names

variable {parameters : List NodeId} {given : List OperandIndex} {last : NodeId} {index : OperandIndex}

theorem namesOf_concat (lengths : parameters.length = given.length) (id : NodeId) :
    namesOf (parameters ++ [last]) (given ++ [index]) id =
      (namesOf parameters given id).or (if id = last then some index else none) := by
  have one : [last].zip [index] = [(last, index)] := rfl
  rw [namesOf, namesOf, List.zip_append lengths, List.lookup_append, one]
  congr 1
  by_cases here : id = last
  · rw [here, List.lookup_cons_self, if_pos rfl]
  · have other : (id == last) = false := beq_eq_false_iff_ne.2 here
    rw [List.lookup_cons, other, if_neg here]
    rfl

theorem namesOf_eq_none {id : NodeId} (fresh : id ∉ parameters) : namesOf parameters given id = none := by
  rw [namesOf, List.lookup_eq_none_iff]
  intro entry member
  have held : entry.1 ∈ parameters := (List.of_mem_zip member).1
  exact bne_iff_ne.2 fun same => fresh (same ▸ held)

end Names

namespace Builder

/-- An environment tells what stands for the operands of a builder that has given some operands back. -/
structure Denotes (given : List OperandIndex) (builder : Builder) (env : Environment) : Prop where
  trees : ∀ index, Option.Rel
    (fun id tree => builder.graph.expression? (namesOf builder.parameters given) id = some tree)
    (builder.registry.node? index) (env.tree index)
  flagged : ∀ index, builder.registry.isFlagged index = true ↔ env.fed index
  lengths : builder.parameters.length = given.length
  below : ∀ id ∈ builder.parameters, id < builder.graph.size
  nodup : given.Nodup
  members : ∀ index, index ∈ given ↔ env.fed index
  bound : ∀ index, env.fed index → env.tree index ≠ none
  results_eq : builder.results = []

variable {builder after : Builder} {given : List OperandIndex} {env : Environment} {graph : Graph}
  {registry : Registry} {index : OperandIndex} {id : NodeId} {tree : Expression}

theorem denotes_empty : Denotes [] {} .empty where
  trees _ := .none
  flagged _ := ⟨nofun, nofun⟩
  lengths := rfl
  below := nofun
  nodup := List.nodup_nil
  members _ := ⟨nofun, nofun⟩
  bound _ := nofun
  results_eq := rfl

theorem Denotes.tree_eq (denotes : builder.Denotes given env) (index : OperandIndex) :
    (builder.registry.node? index).bind
      (builder.graph.expression? (namesOf builder.parameters given)) = env.tree index := by
  rcases rel_cases (denotes.trees index) with ⟨free, none⟩ | ⟨id, tree, bound, some, shown⟩
  · rw [free, none, Option.bind_none]
  · rw [bound, some, Option.bind_some, shown]

theorem Denotes.unbound_iff (denotes : builder.Denotes given env) (index : OperandIndex) :
    builder.registry.node? index = none ↔ env.tree index = none := by
  rcases rel_cases (denotes.trees index) with ⟨free, none⟩ | ⟨id, tree, bound, some, shown⟩
  · rw [free, none]
    exact ⟨fun _ => rfl, fun _ => rfl⟩
  · rw [bound, some]
    exact ⟨nofun, nofun⟩

/-- A builder has one environment. -/
theorem Denotes.unique {env' : Environment} (denotes : builder.Denotes given env)
    (denotes' : builder.Denotes given env') : env = env' := by
  ext1
  · funext index
    rw [← denotes.tree_eq, ← denotes'.tree_eq]
  · funext index
    exact propext ((denotes.flagged index).symm.trans (denotes'.flagged index))

/-- Nodes are added and one is bound; names are given to nodes that are new at most. -/
theorem Denotes.trees_bind (denotes : builder.Denotes given env) {names : Naming}
    (same : ∀ id, id < builder.graph.size → namesOf builder.parameters given id = names id)
    (grown : builder.graph.Extends graph)
    (bind : ∀ other, registry.node? other = (builder.registry.bind index id).node? other)
    {offered : Option Expression} (shown : graph.expression? names id = some tree)
    (offers : offered = some tree) (other : OperandIndex) :
    Option.Rel (fun id tree => graph.expression? names id = some tree) (registry.node? other)
      (if other = index then offered else env.tree other) := by
  rw [bind]
  by_cases here : other = index
  · rw [here, Registry.node?_bind_self, if_pos rfl, offers]
    exact .some shown
  · rw [Registry.node?_bind_of_ne _ _ _ here, if_neg here]
    rcases rel_cases (denotes.trees other) with ⟨free, none⟩ | ⟨id', tree', bound, some, stands⟩
    · rw [free, none]
      exact .none
    · rw [bound, some]
      rw [Graph.expression?_congr same] at stands
      exact .some (grown.expression? stands)

theorem Denotes.write (denotes : builder.Denotes given env)
    (leaves : builder.Leaves after graph (builder.registry.bind index id) [])
    (grown : builder.graph.Extends graph)
    (shown : graph.expression? (namesOf builder.parameters given) id = some tree) :
    after.Denotes given (env.write index tree) := by
  have parameters : after.parameters = builder.parameters := by
    rw [leaves.parameters_eq, List.append_nil]
  constructor
  · intro other
    rw [parameters, leaves.registry_eq, leaves.graph_eq]
    exact denotes.trees_bind (fun _ _ => rfl) grown (fun _ => rfl) shown rfl other
  · intro other
    rw [leaves.registry_eq]
    exact denotes.flagged other
  · rw [parameters, denotes.lengths]
  · intro id member
    rw [parameters] at member
    rw [leaves.graph_eq]
    exact Nat.lt_of_lt_of_le (denotes.below id member) grown.size_le
  · exact denotes.nodup
  · exact denotes.members
  · intro other fed
    rw [Environment.write]
    by_cases here : other = index
    · simp [here]
    · simpa [here] using denotes.bound other fed
  · rw [leaves.results_eq, denotes.results_eq]

/-- A graph input: one parameter more, and what it is converted to comes to stand for the operand. -/
theorem Denotes.take_input (denotes : builder.Denotes given env) (free : env.tree index = none)
    (leaves : builder.Leaves after graph ((builder.registry.bind index id).flag index)
      [builder.graph.size])
    (grown : builder.graph.Extends graph) (larger : builder.graph.size < graph.size)
    (shown : graph.expression? (namesOf (builder.parameters ++ [builder.graph.size])
      (given ++ [index])) id = some tree) :
    after.Denotes (given ++ [index]) (env.take index ⟨some tree, True⟩) := by
  have fresh : index ∉ given := fun member => denotes.bound index ((denotes.members index).1 member) free
  constructor
  · intro other
    rw [leaves.parameters_eq, leaves.registry_eq, leaves.graph_eq]
    refine denotes.trees_bind ?_ grown (fun _ => rfl) shown rfl other
    intro id below
    rw [namesOf_concat denotes.lengths, if_neg (Nat.ne_of_lt below), Option.or_none]
  · intro other
    rw [leaves.registry_eq, Registry.isFlagged_flag, Registry.isFlagged_bind, Bool.or_eq_true,
      decide_eq_true_iff, denotes.flagged other]
    simp [Environment.take]
  · rw [leaves.parameters_eq, List.length_append, List.length_append, denotes.lengths]
    rfl
  · intro id member
    rw [leaves.parameters_eq] at member
    rw [leaves.graph_eq]
    rcases List.mem_append.1 member with before | last
    · exact Nat.lt_of_lt_of_le (denotes.below id before) grown.size_le
    · rwa [List.mem_singleton.1 last]
  · refine List.nodup_append.2 ⟨denotes.nodup, List.pairwise_singleton _ index, ?_⟩
    rintro entry member _ here rfl
    rw [List.mem_singleton.1 here] at member
    exact fresh member
  · intro other
    rw [List.mem_append, List.mem_singleton, denotes.members other]
    simp [Environment.take, or_comm]
  · intro other fed
    rw [Environment.take]
    by_cases here : other = index
    · simp [here]
    · have before : env.fed other := by simpa [Environment.take, here] using fed
      simpa [here] using denotes.bound other before
  · rw [leaves.results_eq, denotes.results_eq]

/-! ### Registering operands in two builders -/

section TwoBuilders

variable {builder' : Builder} {given' : List OperandIndex} {env' : Environment} {tensor : Tensor}
  (denotes : builder.Denotes given env) (denotes' : builder'.Denotes given' env')

theorem Denotes.name_parameter (denotes : builder.Denotes given env) (index : OperandIndex)
    (elementType : ElementType) (shape : Shape) :
    (builder.withParameter elementType shape).graph.expression?
      (namesOf (builder.parameters ++ [builder.graph.size]) (given ++ [index])) builder.graph.size =
        some (.operand index (shape, elementType)) := by
  have fresh : builder.graph.size ∉ builder.parameters :=
    fun member => Nat.lt_irrefl _ (denotes.below _ member)
  have pushed := Graph.expression?_push_self
    (namesOf (builder.parameters ++ [builder.graph.size]) (given ++ [index])) builder.graph .parameter
    [] (shape, elementType)
  rw [if_pos rfl, namesOf_concat denotes.lengths, namesOf_eq_none fresh, if_pos rfl] at pushed
  exact pushed

include denotes denotes'

theorem Denotes.registerConstant (ran : registerConstant tensor index builder = .ok () after) :
    ∃ tree after', registerConstant tensor index builder' = .ok () after' ∧
      after.Denotes given (env.write index tree) ∧ after'.Denotes given' (env'.write index tree) := by
  obtain ⟨elementType, shape, data, content, sized, leaves⟩ := registerConstant_leaves ran
  obtain ⟨after', ran', leaves'⟩ := registerConstant_of_ok builder' content sized
  have shown : ∀ (names : Naming) (graph : Graph),
      (graph.push (.constant data) [] (shape, elementType)).2.expression? names graph.size =
        some (.node (.constant data) (shape, elementType) []) := by
    intro names graph
    rw [Graph.expression?_push_self, if_neg nofun]
    rfl
  exact ⟨_, after', ran', denotes.write leaves (Graph.extends_push _ _ _ _) (shown _ _),
    denotes'.write leaves' (Graph.extends_push _ _ _ _) (shown _ _)⟩

theorem Denotes.registerInput (free : env.tree index = none) (free' : env'.tree index = none)
    (ran : registerInput tensor index builder = .ok () after) :
    ∃ tree after', registerInput tensor index builder' = .ok () after' ∧
      after.Denotes (given ++ [index]) (env.take index ⟨some tree, True⟩) ∧
      after'.Denotes (given' ++ [index]) (env'.take index ⟨some tree, True⟩) := by
  obtain ⟨elementType, shape, result, draft, typed, converted, leaves⟩ := registerInput_leaves ran
  have held := Graph.node?_push_self builder.graph .parameter [] (shape, elementType)
  have held' := Graph.node?_push_self builder'.graph .parameter [] (shape, elementType)
  have grown := Graph.extends_push builder.graph .parameter [] (shape, elementType)
  have grown' := Graph.extends_push builder'.graph .parameter [] (shape, elementType)
  have same : SameExpression (namesOf (builder.parameters ++ [builder.graph.size]) (given ++ [index]))
      (namesOf (builder'.parameters ++ [builder'.graph.size]) (given' ++ [index]))
      (builder.withParameter elementType shape).graph
      (builder'.withParameter elementType shape).graph builder.graph.size builder'.graph.size :=
    ⟨_, denotes.name_parameter index elementType shape,
      denotes'.name_parameter index elementType shape⟩
  have emits : (Likeness.trees _ _).Emits id _ _ _ _ _ :=
    Likeness.emits_toEngine same (Graph.contains_of_node? held) (Graph.contains_of_node? held')
      tensor.dims
  obtain ⟨result', draft', converted', steps, tree, shown, shown'⟩ :=
    (emits trivial).ok_of_run converted
  obtain ⟨after', ran', leaves'⟩ := registerInput_of_ok typed converted'
  have larger := Nat.lt_of_lt_of_le (Graph.lt_size_of_node? held) steps.left.size_le
  have larger' := Nat.lt_of_lt_of_le (Graph.lt_size_of_node? held') steps.right.size_le
  exact ⟨tree, after', ran',
    denotes.take_input free leaves (grown.trans steps.left) larger shown,
    denotes'.take_input free' leaves' (grown'.trans steps.right) larger' shown'⟩

/-- An operand that has no node is registered alike in both. -/
theorem Denotes.materialize_alike {partition : Partition} {tensors : TensorContext}
    {more : List OperandIndex} (free : env.tree index = none) (free' : env'.tree index = none)
    (ran : partition.materialize tensors index builder = .ok more after) :
    ∃ offer after', partition.materialize tensors index builder' = .ok more after' ∧
      after.Denotes (given ++ more) (env.take index offer) ∧
      after'.Denotes (given' ++ more) (env'.take index offer) := by
  have unbound := (denotes.unbound_iff index).2 free
  have unbound' := (denotes'.unbound_iff index).2 free'
  cases materialize_eq_ok.1 ran with
  | bound held =>
    obtain ⟨id, held⟩ := held
    rw [unbound] at held
    cases held
  | weights _ known kept ran =>
    obtain ⟨tree, after', ran', stands, stands'⟩ := denotes.registerConstant denotes' ran
    refine ⟨⟨some tree, False⟩, after', materialize_eq_ok.2 (.weights unbound' known kept ran'), ?_⟩
    rw [List.append_nil, List.append_nil, Environment.take_unfed, Environment.take_unfed]
    exact ⟨stands, stands'⟩
  | input _ known mutable member ran =>
    obtain ⟨tree, after', ran', stands⟩ := denotes.registerInput denotes' free free' ran
    exact ⟨⟨some tree, True⟩, after',
      materialize_eq_ok.2 (.input unbound' known mutable member ran'), stands⟩
  | foreign _ known mutable apart =>
    refine ⟨⟨none, False⟩, builder', materialize_eq_ok.2 (.foreign unbound' known mutable apart), ?_⟩
    rw [List.append_nil, List.append_nil, Environment.take_nothing free, Environment.take_nothing free']
    exact ⟨denotes, denotes'⟩

end TwoBuilders

end Builder

/-! ## Operands that can be had -/

namespace Partition

/-- An operand can be registered, or is left without a node, in a builder that has no nodes yet. -/
def Obtains (partition : Partition) (tensors : TensorContext) (index : OperandIndex) : Prop :=
  ∃ given after, partition.materialize tensors index {} = .ok given after

def offer (partition : Partition) (tensors : TensorContext) (index : OperandIndex) : Offer :=
  match partition.materialize tensors index {} with
  | .ok given after =>
    ⟨(after.registry.node? index).bind (after.graph.expression? (namesOf after.parameters given)),
      after.registry.isFlagged index = true⟩
  | .error _ _ => ⟨none, False⟩

end Partition

def Supplies (partition : Partition) (tensors : TensorContext) (env : Environment)
    (node : ScheduledNode) : Prop :=
  ∀ index ∈ node.neededInputs, env.tree index = none → partition.Obtains tensors index

namespace Builder

variable {partition : Partition} {tensors : TensorContext} {builder after : Builder}
  {given more : List OperandIndex} {env : Environment} {index : OperandIndex}

theorem Denotes.materialize (denotes : builder.Denotes given env)
    (ran : partition.materialize tensors index builder = .ok more after) :
    (env.tree index = none → partition.Obtains tensors index) ∧
      after.Denotes (given ++ more) (env.provide (partition.offer tensors) [index]) := by
  cases stands : env.tree index with
  | some tree =>
    rw [Environment.provide_singleton_of_some stands]
    refine ⟨nofun, ?_⟩
    have bound : builder.registry.node? index ≠ none := by
      intro free
      rw [(denotes.unbound_iff index).1 free] at stands
      cases stands
    cases materialize_eq_ok.1 ran with
    | bound _ => rwa [List.append_nil]
    | weights unbound => exact absurd unbound bound
    | input unbound => exact absurd unbound bound
    | foreign unbound => exact absurd unbound bound
  | none =>
    obtain ⟨offer, first, ran', taken, taken'⟩ :=
      denotes.materialize_alike denotes_empty stands rfl ran
    refine ⟨fun _ => ⟨more, first, ran'⟩, ?_⟩
    have same : partition.offer tensors index = offer := by
      have tree := taken'.tree_eq index
      have fed : first.registry.isFlagged index = true ↔ offer.fed := by
        simpa [Environment.take, Environment.empty] using taken'.flagged index
      have taken_tree : (Environment.empty.take index offer).tree index = offer.tree := if_pos rfl
      rw [List.nil_append, taken_tree] at tree
      rw [Partition.offer, ran']
      dsimp only
      rw [tree, fed]
    rw [Environment.provide_singleton_of_none stands, same]
    exact taken

theorem Denotes.materialize_ok (denotes : builder.Denotes given env)
    (obtains : env.tree index = none → partition.Obtains tensors index) :
    ∃ more after, partition.materialize tensors index builder = .ok more after := by
  cases stands : env.tree index with
  | some tree =>
    rcases rel_cases (denotes.trees index) with ⟨_, none⟩ | ⟨id, _, bound, _⟩
    · rw [stands] at none
      cases none
    · exact ⟨[], builder, materialize_eq_ok.2 (.bound ⟨id, bound⟩)⟩
  | none =>
    obtain ⟨more, first, ran⟩ := obtains stands
    obtain ⟨_, after, ran', _⟩ := denotes_empty.materialize_alike denotes rfl stands ran
    exact ⟨more, after, ran'⟩

theorem Denotes.materializeAll {needs : List OperandIndex} (denotes : builder.Denotes given env)
    (ran : partition.materializeAll tensors needs builder = .ok more after) :
    (∀ index ∈ needs, env.tree index = none → partition.Obtains tensors index) ∧
      after.Denotes (given ++ more) (env.provide (partition.offer tensors) needs) := by
  refine materializeAll_keeps
    (fun asked given here =>
      (∀ index ∈ asked, env.tree index = none → partition.Obtains tensors index) ∧
        here.Denotes given (env.provide (partition.offer tensors) asked))
    ?_ [] given ⟨nofun, by rwa [Environment.provide_nil]⟩ ran
  rintro index _ asked given more between next ⟨obtains, denotes⟩ ran
  obtain ⟨obtains', denotes'⟩ := denotes.materialize ran
  rw [Environment.provide_append]
  refine ⟨?_, denotes'⟩
  intro other member free
  by_cases seen : other ∈ asked
  · exact obtains other seen free
  · cases List.mem_singleton.1 ((List.mem_append.1 member).resolve_left seen)
    apply obtains'
    simp [Environment.provide, free, seen]

theorem Denotes.materializeAll_ok {needs : List OperandIndex} :
    ∀ {builder : Builder} {given : List OperandIndex} {env : Environment},
      builder.Denotes given env →
      (∀ index ∈ needs, env.tree index = none → partition.Obtains tensors index) →
      ∃ more after, partition.materializeAll tensors needs builder = .ok more after := by
  induction needs with
  | nil =>
    intro builder given env _ _
    exact ⟨[], builder, rfl⟩
  | cons index rest ih =>
    intro builder given env denotes obtains
    obtain ⟨first, between, ran⟩ := denotes.materialize_ok (obtains index List.mem_cons_self)
    obtain ⟨_, denotes'⟩ := denotes.materialize ran
    have obtains' : ∀ other ∈ rest,
        (env.provide (partition.offer tensors) [index]).tree other = none →
          partition.Obtains tensors other := by
      intro other member free
      apply obtains other (List.mem_cons_of_mem _ member)
      exact (Option.or_eq_none_iff.1 free).1
    obtain ⟨others, after, ran'⟩ := ih denotes' obtains'
    refine ⟨first ++ others, after, ?_⟩
    rw [Partition.materializeAll, run_bind_of_ok ran, run_bind_of_ok ran']
    rfl

/-! ### Nodes -/

/-- The operands of a node of which a lowering reads the nodes. -/
theorem mem_of_mem_drop_unbound {node : ScheduledNode} {recipe : Recipe}
    (known : Recipe.ofOpCode node.op = .ok recipe) (member : index ∈ node.inputs.drop recipe.unbound) :
    index ∈ node.inputs ∧ (0 ≤ index → index ∈ node.neededInputs) := by
  refine ⟨List.mem_of_mem_drop member, fun valid => ?_⟩
  rw [ScheduledNode.neededInputs]
  refine List.mem_filter.2 ⟨?_, decide_eq_true valid⟩
  by_cases transposed : node.op = .builtin .transposeConv
  · have recipe_eq : Recipe.ofOpCode (.builtin .transposeConv) = .ok .transposeConv := rfl
    rw [transposed, recipe_eq] at known
    cases known
    rwa [if_pos transposed]
  · rw [if_neg transposed]
    exact List.mem_of_mem_drop member

/-- A node is lowered alike wherever it reads the same, and its output comes to stand for the same. -/
theorem Denotes.lowerNode {builder' : Builder} {given' : List OperandIndex} {env' : Environment}
    {node : ScheduledNode} (denotes : builder.Denotes given env)
    (denotes' : builder'.Denotes given' env') (same : ReadSame node env env')
    (ran : Builder.lowerNode node.id node tensors builder = .ok () after) :
    ∃ output tree after', node.outputs.head? = some output ∧
      Builder.lowerNode node.id node tensors builder' = .ok () after' ∧
      after.Denotes given (env.write output tree) ∧
      after'.Denotes given' (env'.write output tree) := by
  obtain ⟨output, recipe, result, draft, known, emitted, leaves⟩ := lowerNode_leaves ran
  obtain ⟨_, head, named⟩ := target_eq_ok.1 known
  have scopes : (Likeness.trees (namesOf builder.parameters given)
      (namesOf builder'.parameters given')).Scopes id recipe.unbound builder.graph builder'.graph
        node.inputs ⟨builder.registry, tensors⟩ ⟨builder'.registry, tensors⟩ := by
    refine ⟨fun _ _ => Iff.rfl, ?_, ?_, ?_⟩
    · intro index member
      obtain ⟨inside, needed⟩ := mem_of_mem_drop_unbound named member
      have trees := (same index inside needed).1
      rw [id]
      rcases rel_cases (denotes.trees index) with ⟨free, none⟩ | ⟨first, tree, bound, some, shown⟩
      · rw [none] at trees
        rw [free, (denotes'.unbound_iff index).2 trees.symm]
        exact .none
      · rcases rel_cases (denotes'.trees index) with
          ⟨_, none⟩ | ⟨second, tree', bound', some', shown'⟩
        · rw [some, none] at trees
          cases trees
        · rw [some, some'] at trees
          cases trees
          rw [bound, bound']
          exact .some ⟨tree, shown, shown'⟩
    · intro index member
      obtain ⟨inside, needed⟩ := mem_of_mem_drop_unbound named member
      have fed := (same index inside needed).2
      rw [Bool.eq_iff_iff, id, denotes.flagged, denotes'.flagged, fed]
    · intro index _
      rw [id]
      cases tensors.get? index with
      | none => exact .none
      | some tensor => exact .some ⟨rfl, rfl⟩
  have emits := recipe.emits_emit scopes node.options
  rw [List.map_id] at emits
  obtain ⟨result', draft', emitted', steps, tree, shown, shown'⟩ := (emits trivial).ok_of_run emitted
  obtain ⟨after', ran', leaves'⟩ := lowerNode_of_emit builder' known emitted'
  exact ⟨output, tree, after', head, ran', denotes.write leaves steps.left shown,
    denotes'.write leaves' steps.right shown'⟩

/-! ### Schedules -/

section Schedules

variable {builder' : Builder} {given' : List OperandIndex}

/-- A node that is lowered in one environment is lowered in another, where it reads the same and its operands
can be had. -/
theorem Denotes.partition_lowerNode {env' : Environment} {node : ScheduledNode}
    (denotes : builder.Denotes given env) (denotes' : builder'.Denotes given' env')
    (ran : partition.lowerNode tensors node builder = .ok more after)
    (same : ReadSame node (env.provide (partition.offer tensors) node.neededInputs)
      (env'.provide (partition.offer tensors) node.neededInputs))
    (supplies : Supplies partition tensors env node → Supplies partition tensors env' node) :
    Supplies partition tensors env node ∧ ∃ output tree more' after',
      node.outputs.head? = some output ∧
      partition.lowerNode tensors node builder' = .ok more' after' ∧
      after.Denotes (given ++ more)
        ((env.provide (partition.offer tensors) node.neededInputs).write output tree) ∧
      after'.Denotes (given' ++ more')
        ((env'.provide (partition.offer tensors) node.neededInputs).write output tree) := by
  obtain ⟨accepted, between, registered, lowered⟩ := partition_lowerNode_eq_ok.1 ran
  obtain ⟨supplied, provided⟩ := denotes.materializeAll registered
  obtain ⟨more', between', registered'⟩ := denotes'.materializeAll_ok (supplies supplied)
  obtain ⟨_, provided'⟩ := denotes'.materializeAll registered'
  obtain ⟨output, tree, after', head, lowered', written, written'⟩ :=
    provided.lowerNode provided' same lowered
  exact ⟨supplied, output, tree, more', after', head,
    partition_lowerNode_eq_ok.2 ⟨accepted, between', registered', lowered'⟩, written, written'⟩

/-- Builders of one environment are left with one environment by a schedule. -/
theorem Denotes.lowerNodes {nodes : List ScheduledNode} :
    ∀ {builder builder' : Builder} {given given' more : List OperandIndex} {env : Environment},
      builder.Denotes given env → builder'.Denotes given' env →
      partition.lowerNodes tensors nodes builder = .ok more after →
      ∃ more' after' last, partition.lowerNodes tensors nodes builder' = .ok more' after' ∧
        after.Denotes (given ++ more) last ∧ after'.Denotes (given' ++ more') last := by
  induction nodes with
  | nil =>
    intro builder builder' given given' more env denotes denotes' ran
    cases ran
    refine ⟨[], builder', env, rfl, ?_⟩
    rw [List.append_nil, List.append_nil]
    exact ⟨denotes, denotes'⟩
  | cons node rest ih =>
    intro builder builder' given given' more env denotes denotes' ran
    obtain ⟨first, between, others, here, later, rfl⟩ := lowerNodes_cons_eq_ok.1 ran
    obtain ⟨_, _, _, first', between', _, here', denotes₁, denotes₁'⟩ :=
      denotes.partition_lowerNode denotes' here (.refl node _) fun supplied => supplied
    obtain ⟨others', after', last, later', denotes₂, denotes₂'⟩ := ih denotes₁ denotes₁' later
    rw [List.append_assoc] at denotes₂ denotes₂'
    exact ⟨first' ++ others', after', last,
      lowerNodes_cons_eq_ok.2 ⟨first', between', others', here', later', rfl⟩, denotes₂, denotes₂'⟩

end Schedules

/-! ### Results -/

section Results

variable {builder' : Builder} {given' : List OperandIndex}

structure Lengthens (before after : Builder) : Prop where
  longer : before.graph.Extends after.graph
  parameters_eq : after.parameters = before.parameters

theorem Lengthens.refl (builder : Builder) : builder.Lengthens builder :=
  ⟨.refl _, rfl⟩

theorem Lengthens.trans {before between after : Builder} (first : before.Lengthens between)
    (second : between.Lengthens after) : before.Lengthens after :=
  ⟨first.longer.trans second.longer, second.parameters_eq.trans first.parameters_eq⟩

theorem Denotes.grow {draft : Draft} (denotes : builder.Denotes given env)
    (grown : builder.graph.Extends draft.graph) : Denotes given { builder with draft } env := by
  refine ⟨?_, denotes.flagged, denotes.lengths, ?_, denotes.nodup, denotes.members, denotes.bound,
    denotes.results_eq⟩
  · intro index
    rcases rel_cases (denotes.trees index) with ⟨free, none⟩ | ⟨id, tree, bound, some, shown⟩
    · rw [free, none]
      exact .none
    · rw [bound, some]
      exact .some (grown.expression? shown)
  · exact fun id member => Nat.lt_of_lt_of_le (denotes.below id member) grown.size_le

theorem Denotes.resultNode {result : NodeId} (denotes : builder.Denotes given env)
    (denotes' : builder'.Denotes given' env)
    (ran : Builder.resultNode index builder = .ok result after) :
    ∃ result' after', Builder.resultNode index builder' = .ok result' after' ∧
      after.Denotes given env ∧ after'.Denotes given' env ∧
      builder.Lengthens after ∧ builder'.Lengthens after' ∧
      SameExpression (namesOf builder.parameters given) (namesOf builder'.parameters given')
        after.graph after'.graph result result' := by
  obtain ⟨id, held, shape⟩ := resultNode_eq_ok.1 ran
  rcases rel_cases (denotes.trees index) with ⟨free, _⟩ | ⟨_, tree, bound, some, shown⟩
  · rw [free] at held
    cases held
  rw [bound] at held
  cases held
  rcases rel_cases (denotes'.trees index) with ⟨_, none⟩ | ⟨id', tree', bound', some', shown'⟩
  · rw [none] at some
    cases some
  rw [some] at some'
  cases some'
  have same : SameExpression (namesOf builder.parameters given) (namesOf builder'.parameters given')
      builder.graph builder'.graph id id' := ⟨tree, shown, shown'⟩
  have images : (builder'.graph.node? id').any (·.rank = 4) = (builder.graph.node? id).any (·.rank = 4) := by
    obtain ⟨node, found, alike, _⟩ := Graph.node_of_expression? shown
    obtain ⟨node', found', alike', _⟩ := Graph.node_of_expression? shown'
    have rank : node'.rank = node.rank := Node.Alike.rank (alike'.trans alike.symm)
    rw [found, found', Option.any_some, Option.any_some, rank]
  rcases shape with ⟨image, draft, turned, rfl⟩ | ⟨plain, rfl, rfl⟩
  · have there := Graph.lt_size_of_expression? shown
    have emits : (Likeness.trees _ _).Emits (fun index => index) _ _ builder.draft _ builder'.draft :=
      Likeness.emits_toHost same (decide_eq_true there)
    obtain ⟨result', draft', turned', steps, shows⟩ := (emits trivial).ok_of_run turned
    exact ⟨result', _, resultNode_eq_ok.2 ⟨id', bound', .inl ⟨images.trans image, draft', turned', rfl⟩⟩,
      denotes.grow steps.left, denotes'.grow steps.right, ⟨steps.left, rfl⟩, ⟨steps.right, rfl⟩,
      shows⟩
  · exact ⟨id', builder', resultNode_eq_ok.2 ⟨id', bound', .inr ⟨images.trans plain, rfl, rfl⟩⟩,
      denotes, denotes', .refl _, .refl _, same⟩

theorem Denotes.resultNodes {indices : List OperandIndex} :
    ∀ {builder builder' after : Builder} {results : List NodeId},
      builder.Denotes given env → builder'.Denotes given' env →
      Builder.resultNodes indices builder = .ok results after →
      ∃ results' after', Builder.resultNodes indices builder' = .ok results' after' ∧
        after.Denotes given env ∧ after'.Denotes given' env ∧
        builder.Lengthens after ∧ builder'.Lengthens after' ∧
        List.Forall₂ (SameExpression (namesOf builder.parameters given)
          (namesOf builder'.parameters given') after.graph after'.graph) results results' := by
  induction indices with
  | nil =>
    intro builder builder' after results denotes denotes' ran
    cases ran
    exact ⟨[], builder', rfl, denotes, denotes', .refl _, .refl _, .nil⟩
  | cons index rest ih =>
    intro builder builder' after results denotes denotes' ran
    obtain ⟨first, between, here, ran⟩ := run_bind_eq_ok.1 ran
    obtain ⟨others, _, later, last⟩ := run_bind_eq_ok.1 ran
    cases last
    obtain ⟨first', between', here', denotes₁, denotes₁', grown, grown', same⟩ :=
      denotes.resultNode denotes' here
    obtain ⟨others', after', later', denotes₂, denotes₂', grown₁, grown₁', sames⟩ :=
      ih denotes₁ denotes₁' later
    rw [grown.parameters_eq, grown'.parameters_eq] at sames
    refine ⟨first' :: others', after', ?_, denotes₂, denotes₂', grown.trans grown₁,
      grown'.trans grown₁', .cons ?_ sames⟩
    · rw [Builder.resultNodes, run_bind_of_ok here', run_bind_of_ok later']
      rfl
    · exact (Likeness.trees _ _).mono grown₁.longer grown₁'.longer same

end Results

end Builder

end PartitionLowering
