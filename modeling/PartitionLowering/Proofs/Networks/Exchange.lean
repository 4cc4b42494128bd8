import PartitionLowering.Proofs.Networks.Environment

/-!
Neighbours in a schedule that do not touch each other's operands can be lowered in either order.  Ids, the
order of the graph inputs and the moment at which a shared operand is registered change; what stands for the
operands afterwards does not (`Denotes.exchange`), and the rest of the schedule cannot tell.  Main
statement: `lower_exchange`.
-/

set_option autoImplicit false

namespace PartitionLowering

/-- Neither node's first output is among the inputs of the other, and the two are different operands. -/
structure ScheduledNode.Independent (first second : ScheduledNode) : Prop where
  left : ∀ output, first.outputs.head? = some output → output ∉ second.inputs
  right : ∀ output, second.outputs.head? = some output → output ∉ first.inputs
  distinct : ∀ output, first.outputs.head? = some output → second.outputs.head? ≠ some output

theorem ScheduledNode.Independent.symm {first second : ScheduledNode}
    (independent : first.Independent second) : second.Independent first :=
  ⟨independent.right, independent.left,
    fun output head head' => independent.distinct output head' head⟩

/-! ## Environments -/

namespace Environment

variable {env : Environment} {offers : OperandIndex → Offer}

/-- A node reads the same whether or not another one has registered its operands and written its output. -/
theorem readSame_of_other {node other : ScheduledNode} {output : OperandIndex}
    (apart : output ∉ node.inputs) (tree : Expression) :
    ReadSame node
      (((env.provide offers other.neededInputs).write output tree).provide offers node.neededInputs)
      (env.provide offers node.neededInputs) := by
  intro index member needed
  have different : index ≠ output := fun same => apart (same ▸ member)
  cases stands : env.tree index with
  | some _ => simp [provide, write, different, stands]
  | none =>
    by_cases asked : index ∈ node.neededInputs
    · by_cases before : index ∈ other.neededInputs
      · simp +contextual [provide, write, different, stands, asked, before]
      · simp [provide, write, different, stands, asked, before]
    · have before : index ∉ other.neededInputs :=
        fun before => asked (needed (mem_of_mem_neededInputs before).2)
      simp [provide, write, different, stands, asked, before]

/-- What two nodes leave does not depend on their order. -/
theorem exchange {needs needs' : List OperandIndex} {output output' : OperandIndex}
    (distinct : output ≠ output') (apart : output ∉ needs') (apart' : output' ∉ needs)
    (tree tree' : Expression) :
    (((env.provide offers needs).write output tree).provide offers needs').write output' tree' =
      (((env.provide offers needs').write output' tree').provide offers needs).write output tree := by
  ext1
  · funext index
    by_cases first : index = output
    · simp [provide, write, first, distinct]
    by_cases second : index = output'
    · simp [provide, write, second, Ne.symm distinct]
    by_cases asked : index ∈ needs <;> by_cases asked' : index ∈ needs' <;>
      simp [provide, write, first, second, asked, asked']
  · funext index
    by_cases first : index = output
    · simp [provide, write, first, distinct, apart]
    by_cases second : index = output'
    · simp [provide, write, second, Ne.symm distinct, apart']
    by_cases asked : index ∈ needs <;> by_cases asked' : index ∈ needs' <;>
      simp [provide, write, first, second, asked, asked']

end Environment

/-! ## Two nodes -/

section Exchanging

variable {partition : Partition} {tensors : TensorContext} {builder builder' after : Builder}
  {given given' more : List OperandIndex} {env : Environment} {first second : ScheduledNode}

theorem lowerNodes_pair_eq_ok :
    partition.lowerNodes tensors [first, second] builder = .ok more after ↔
      ∃ given between given', partition.lowerNode tensors first builder = .ok given between ∧
        partition.lowerNode tensors second between = .ok given' after ∧ more = given ++ given' := by
  rw [lowerNodes_cons_eq_ok]
  constructor
  · rintro ⟨given, between, others, here, later, rfl⟩
    obtain ⟨given', last, none, here', nil, rfl⟩ := lowerNodes_cons_eq_ok.1 later
    cases nil
    exact ⟨given, between, given', here, here', by rw [List.append_nil]⟩
  · rintro ⟨given, between, given', here, here', rfl⟩
    refine ⟨given, between, given', here, ?_, rfl⟩
    exact lowerNodes_cons_eq_ok.2 ⟨given', after, [], here', rfl, (List.append_nil _).symm⟩

theorem not_needed {node : ScheduledNode} {index : OperandIndex} (fresh : index ∉ node.inputs) :
    index ∉ node.neededInputs :=
  fun needed => fresh (mem_of_mem_neededInputs needed).1

/-- A node's operands could be had after another node; they can be had without it, or it had them. -/
theorem Supplies.without {node other : ScheduledNode} {output : OperandIndex} {tree : Expression}
    (apart : output ∉ node.inputs) (earlier : Supplies partition tensors env other)
    (supplies : Supplies partition tensors
      ((env.provide (partition.offer tensors) other.neededInputs).write output tree) node) :
    Supplies partition tensors env node := by
  intro index needed free
  by_cases shared : index ∈ other.neededInputs
  · exact earlier index shared free
  · have different : index ≠ output := fun same => not_needed apart (same ▸ needed)
    apply supplies index needed
    rw [Environment.write_of_ne different]
    simp [Environment.provide, free, shared]

theorem Supplies.behind {node other : ScheduledNode} {output : OperandIndex} {tree : Expression}
    (apart : output ∉ node.inputs) (supplies : Supplies partition tensors env node) :
    Supplies partition tensors
      ((env.provide (partition.offer tensors) other.neededInputs).write output tree) node := by
  intro index needed free
  have different : index ≠ output := fun same => not_needed apart (same ▸ needed)
  rw [Environment.write_of_ne different] at free
  exact supplies index needed (Option.or_eq_none_iff.1 free).1

/-- Two nodes that are independent leave the same behind in either order. -/
theorem Builder.Denotes.exchange (independent : first.Independent second)
    (denotes : builder.Denotes given env) (denotes' : builder'.Denotes given' env)
    (ran : partition.lowerNodes tensors [first, second] builder = .ok more after) :
    ∃ more' after' last, partition.lowerNodes tensors [second, first] builder' = .ok more' after' ∧
      after.Denotes (given ++ more) last ∧ after'.Denotes (given' ++ more') last := by
  obtain ⟨more₁, middle, more₂, ran₁, ran₂, rfl⟩ := lowerNodes_pair_eq_ok.1 ran
  obtain ⟨supplied, output, tree, _, _, head, _, written, _⟩ :=
    denotes.partition_lowerNode denotes ran₁ (.refl _ _) fun supplied => supplied
  have apart : output ∉ second.inputs := independent.left output head
  -- the second node comes first and reads what it read after the other one
  obtain ⟨_, output', tree', more₂', middle', head', ran₂', both, written'⟩ :=
    written.partition_lowerNode denotes' ran₂ (Environment.readSame_of_other apart tree)
      (Supplies.without apart supplied)
  have apart' : output' ∉ first.inputs := independent.right output' head'
  have distinct : output ≠ output' := by
    rintro rfl
    exact independent.distinct output head head'
  -- the first one comes after it and reads what it read before
  obtain ⟨_, output₁, tree₁, more₁', after', head₁, ran₁', again, both'⟩ :=
    denotes.partition_lowerNode written' ran₁ (Environment.readSame_of_other apart' tree').symm
      (Supplies.behind apart')
  rw [head] at head₁
  cases head₁
  have trees : tree = tree₁ := Environment.write_injective (written.unique again)
  subst trees
  rw [List.append_assoc,
    Environment.exchange distinct (not_needed apart) (not_needed apart') tree tree'] at both
  rw [List.append_assoc] at both'
  exact ⟨more₂' ++ more₁', after', _,
    lowerNodes_pair_eq_ok.2 ⟨more₂', middle', more₁', ran₂', ran₁', rfl⟩, both, both'⟩

theorem lowerNodes_append_eq_ok {earlier later : List ScheduledNode} :
    ∀ {builder : Builder} {more : List OperandIndex},
      partition.lowerNodes tensors (earlier ++ later) builder = .ok more after ↔
        ∃ given between given', partition.lowerNodes tensors earlier builder = .ok given between ∧
          partition.lowerNodes tensors later between = .ok given' after ∧ more = given ++ given' := by
  induction earlier with
  | nil =>
    intro builder more
    constructor
    · intro ran
      exact ⟨[], builder, more, rfl, ran, rfl⟩
    · rintro ⟨_, _, _, none, ran, rfl⟩
      cases none
      exact ran
  | cons node rest ih =>
    intro builder more
    rw [List.cons_append, lowerNodes_cons_eq_ok]
    constructor
    · rintro ⟨first, middle, others, here, rest, rfl⟩
      obtain ⟨given, between, given', early, late, rfl⟩ := ih.1 rest
      exact ⟨first ++ given, between, given',
        lowerNodes_cons_eq_ok.2 ⟨first, middle, given, here, early, rfl⟩, late,
        (List.append_assoc _ _ _).symm⟩
    · rintro ⟨_, between, given', rest, late, rfl⟩
      obtain ⟨first, middle, given, here, early, rfl⟩ := lowerNodes_cons_eq_ok.1 rest
      exact ⟨first, middle, given ++ given', here, ih.2 ⟨given, between, given', early, late, rfl⟩,
        List.append_assoc _ _ _⟩

/-- The rest of a schedule cannot tell in which order the two were lowered. -/
theorem exchange_lowerNodes (independent : first.Independent second)
    {earlier later : List ScheduledNode}
    (ran : partition.lowerNodes tensors (earlier ++ first :: second :: later) {} = .ok more after) :
    ∃ more' after' last,
      partition.lowerNodes tensors (earlier ++ second :: first :: later) {} = .ok more' after' ∧
        after.Denotes more last ∧ after'.Denotes more' last := by
  have cut : ∀ a b : ScheduledNode, earlier ++ a :: b :: later = earlier ++ ([a, b] ++ later) :=
    fun _ _ => rfl
  rw [cut] at ran ⊢
  obtain ⟨given₁, before, _, ran₁, rest, rfl⟩ := lowerNodes_append_eq_ok.1 ran
  obtain ⟨given₂, middle, given₃, ran₂, ran₃, rfl⟩ := lowerNodes_append_eq_ok.1 rest
  obtain ⟨_, _, env, _, start, _⟩ := Builder.denotes_empty.lowerNodes Builder.denotes_empty ran₁
  obtain ⟨given₂', middle', env', ran₂', both, both'⟩ := start.exchange independent start ran₂
  obtain ⟨given₃', after', last, ran₃', ends, ends'⟩ := both.lowerNodes both' ran₃
  rw [List.append_assoc] at ends ends'
  refine ⟨given₁ ++ (given₂' ++ given₃'), after', last, ?_, ends, ends'⟩
  exact lowerNodes_append_eq_ok.2 ⟨given₁, before, _, ran₁,
    lowerNodes_append_eq_ok.2 ⟨given₂', middle', given₃', ran₂', ran₃', rfl⟩, rfl⟩

end Exchanging

/-! ## Partitions -/

def Partition.scheduled (partition : Partition) (nodes : List ScheduledNode) : Partition :=
  { partition with nodes }

/-- What a node of a lowered partition computes, in terms of the operands that the host feeds. -/
def LoweredPartition.expression? (lowered : LoweredPartition) (id : NodeId) : Option Expression :=
  lowered.model.graph.expression? (namesOf lowered.model.parameters lowered.computeInputs) id

section Partitions

variable {partition : Partition} {tensors : TensorContext} {earlier later : List ScheduledNode}
  {first second : ScheduledNode}

/-- Registering operands looks at the inputs of a partition alone. -/
theorem materializeAll_of_inputs {other : Partition} (same : other.inputs = partition.inputs)
    (indices : List OperandIndex) :
    other.materializeAll tensors indices = partition.materializeAll tensors indices := by
  induction indices with
  | nil => rfl
  | cons index rest ih =>
    rw [Partition.materializeAll, Partition.materializeAll, ih, Partition.materialize,
      Partition.materialize, same]

theorem lowerNodes_scheduled (nodes todo : List ScheduledNode) :
    (partition.scheduled nodes).lowerNodes tensors todo = partition.lowerNodes tensors todo := by
  have inputs : (partition.scheduled nodes).inputs = partition.inputs := rfl
  induction todo with
  | nil => rfl
  | cons node rest ih =>
    rw [Partition.lowerNodes, Partition.lowerNodes, ih, Partition.lowerNode, Partition.lowerNode,
      materializeAll_of_inputs inputs]

/-- What the steps of a lowering come to where two neighbours change places. -/
theorem Lowers.exchange (independent : first.Independent second) {given : List OperandIndex}
    {built last : Builder} {ids : List NodeId}
    (lowers : Lowers (partition.scheduled (earlier ++ first :: second :: later)) tensors given built
      last ids) :
    ∃ given' built' last' ids', Lowers (partition.scheduled (earlier ++ second :: first :: later))
        tensors given' built' last' ids' ∧ given.Perm given' ∧
      last.results = [] ∧ last'.results = [] ∧
      List.Forall₂ (SameExpression (namesOf last.parameters given) (namesOf last'.parameters given')
        last.graph last'.graph) ids ids' := by
  obtain ⟨_, outputs, lowered, results⟩ := lowers
  have ran : partition.lowerNodes tensors (earlier ++ first :: second :: later) {} = .ok given built :=
    (congrFun (lowerNodes_scheduled _ _) {}).symm.trans lowered
  obtain ⟨given', built', env, ran', denotes, denotes'⟩ := exchange_lowerNodes independent ran
  obtain ⟨ids', last', results', ends, ends', grown, grown', same⟩ :=
    denotes.resultNodes denotes' results
  rw [← grown.parameters_eq, ← grown'.parameters_eq] at same
  refine ⟨given', built', last', ids', ⟨?_, outputs, ?_, results'⟩, ?_, ends.results_eq,
    ends'.results_eq, same⟩
  · exact List.append_ne_nil_of_right_ne_nil _ nofun
  · exact (congrFun (lowerNodes_scheduled _ _) {}).trans ran'
  · rw [List.perm_ext_iff_of_nodup denotes.nodup denotes'.nodup]
    exact fun index => (denotes.members index).trans (denotes'.members index).symm

end Partitions

/-- Neighbours that are independent can be lowered in either order: both orders succeed or neither, the host
feeds the same operands, and the results compute the same. -/
theorem lower_exchange (partition : Partition) (tensors : TensorContext) (settings : Settings)
    (earlier later : List ScheduledNode) (first second : ScheduledNode)
    (independent : first.Independent second) :
    ((∃ lowered, (partition.scheduled (earlier ++ first :: second :: later)).lower tensors settings =
        .ok lowered) ↔
      ∃ lowered, (partition.scheduled (earlier ++ second :: first :: later)).lower tensors settings =
        .ok lowered) ∧
    ∀ lowered lowered',
      (partition.scheduled (earlier ++ first :: second :: later)).lower tensors settings = .ok lowered →
      (partition.scheduled (earlier ++ second :: first :: later)).lower tensors settings = .ok lowered' →
      lowered.computeInputs.Perm lowered'.computeInputs ∧
        List.Forall₂ (fun id id' => ∃ tree, lowered.expression? id = some tree ∧
          lowered'.expression? id' = some tree) lowered.model.results lowered'.model.results := by
  refine ⟨⟨?_, ?_⟩, ?_⟩
  · rintro ⟨lowered, success⟩
    obtain ⟨_, _, _, _, lowers, _⟩ := lower_eq_ok.1 success
    obtain ⟨_, _, _, _, lowers', _⟩ := lowers.exchange independent
    exact ⟨_, lowers'.lower_ok settings⟩
  · rintro ⟨lowered, success⟩
    obtain ⟨_, _, _, _, lowers, _⟩ := lower_eq_ok.1 success
    obtain ⟨_, _, _, _, lowers', _⟩ := lowers.exchange independent.symm
    exact ⟨_, lowers'.lower_ok settings⟩
  · intro lowered lowered' success success'
    obtain ⟨given, built, last, ids, lowers, rfl⟩ := lower_eq_ok.1 success
    obtain ⟨given', built', last', ids', lowers', perm, results, results', same⟩ :=
      lowers.exchange independent
    rw [lowers'.lower_ok settings] at success'
    cases success'
    refine ⟨perm, ?_⟩
    rw [Partition.lowered, Partition.lowered, results, results']
    exact same

namespace ExchangeExample

def image : Tensor where
  tensorType := .float32
  dims := [1, 2, 3, 2]

def tensors : TensorContext :=
  .ofList [(0, image), (1, image), (2, image), (3, image)]

def partition : Partition where
  inputs := [0, 1]
  outputs := [3]
  nodes := []

def bend : ScheduledNode where
  id := 0
  op := .builtin .tanh
  inputs := [0]
  outputs := [2]

def sum : ScheduledNode where
  id := 1
  op := .builtin .add
  inputs := [1, 0]
  outputs := [3]
  options := .add ⟨.none⟩

def join : ScheduledNode where
  id := 2
  op := .builtin .add
  inputs := [2, 3]
  outputs := [3]
  options := .add ⟨.none⟩

theorem independent : bend.Independent sum where
  left := by
    intro output head
    cases head
    decide
  right := by
    intro output head
    cases head
    decide
  distinct := by
    intro output head
    cases head
    decide

end ExchangeExample

open ExchangeExample in
theorem lower_exchange_shared :
    bend.Independent sum ∧ ∃ lowered lowered',
      (partition.scheduled [bend, sum, join]).lower tensors {} = .ok lowered ∧
      (partition.scheduled [sum, bend, join]).lower tensors {} = .ok lowered' ∧
      lowered.computeInputs.Perm lowered'.computeInputs ∧
      List.Forall₂ (fun id id' => ∃ tree, lowered.expression? id = some tree ∧
        lowered'.expression? id' = some tree) lowered.model.results lowered'.model.results := by
  obtain ⟨both, same⟩ := lower_exchange partition tensors {} [] [join] bend sum independent
  have succeeds : ((partition.scheduled [bend, sum, join]).lower tensors {}).isOk = true := by
    decide +kernel
  obtain ⟨lowered, success⟩ := exists_of_isOk succeeds
  obtain ⟨lowered', success'⟩ := both.1 ⟨lowered, success⟩
  exact ⟨independent, lowered, lowered', success, success', same lowered lowered' success success'⟩

end PartitionLowering
