import PartitionLowering.Proofs.Lowering.Typing

/-!
When a step on a draft agrees with its counterpart on types.  `Ends` says that the two fail alike, or
that the step gives a value that shows what is told of it.  Sequences of agreeing steps agree
(`Ends.bind`); the single steps are look-ups (`ends_lift`), constants (`Ends.after_int32Constant`) and
operations (`ends_op`).
-/

set_option autoImplicit false

namespace PartitionLowering

/-! ## What a graph shows of an id -/

namespace Graph

def Typed (graph : Graph) (id : NodeId) (type : OutputType) : Prop :=
  ∃ node, graph.node? id = some node ∧ node.outputType = type

/-- The node of an id has the type and the integers of the given one. -/
def Holds (graph : Graph) (id : NodeId) (node : Node) : Prop :=
  ∃ actual, graph.node? id = some actual ∧ actual.Alike node ∧ actual.integers? = node.integers?

def Yields (graph : Graph) (node : Node) (type : OutputType) : Prop :=
  graph.node? node.id = some node ∧ node.outputType = type

theorem Extends.typed {before after : Graph} (grown : before.Extends after) {id : NodeId}
    {type : OutputType} (typed : before.Typed id type) : after.Typed id type := by
  obtain ⟨node, found, same⟩ := typed
  exact ⟨node, grown.node? found, same⟩

theorem Extends.holds {before after : Graph} (grown : before.Extends after) {id : NodeId}
    {node : Node} (holds : before.Holds id node) : after.Holds id node := by
  obtain ⟨actual, found, alike, integers⟩ := holds
  exact ⟨actual, grown.node? found, alike, integers⟩

theorem Extends.yields {before after : Graph} (grown : before.Extends after) {node : Node}
    {type : OutputType} (yields : before.Yields node type) : after.Yields node type :=
  ⟨grown.node? yields.1, yields.2⟩

theorem holds_of_node? {graph : Graph} {id : NodeId} {node : Node}
    (found : graph.node? id = some node) : graph.Holds id node :=
  ⟨node, found, rfl, rfl⟩

theorem Holds.typed {graph : Graph} {id : NodeId} {node : Node} (holds : graph.Holds id node) :
    graph.Typed id node.outputType := by
  obtain ⟨actual, found, alike, _⟩ := holds
  exact ⟨actual, found, alike⟩

theorem Yields.typed {graph : Graph} {node : Node} {type : OutputType}
    (yields : graph.Yields node type) : graph.Typed node.id type :=
  ⟨node, yields.1, yields.2⟩

/-- Ids stand for nodes like the given ones, and for their integers where an operation asks. -/
structure Serves (graph : Graph) (op : Op) (ids : List NodeId) (nodes : List Node) : Prop where
  typed : List.Forall₂ (fun id node => graph.Typed id node.outputType) ids nodes
  held : ∀ position ∈ op.integerPositions, ∀ id node, ids[position]? = some id →
    nodes[position]? = some node → graph.Holds id node

theorem denote_of_typed {graph : Graph} {ids : List NodeId} {nodes : List Node}
    (typed : List.Forall₂ (fun id node => graph.Typed id node.outputType) ids nodes) :
    ∃ actual, graph.Denote ids actual ∧ List.Forall₂ Node.Alike actual nodes := by
  induction typed with
  | nil => exact ⟨[], .nil, .nil⟩
  | cons first _ ih =>
    obtain ⟨node, found, alike⟩ := first
    obtain ⟨actual, denoted, alikes⟩ := ih
    exact ⟨node :: actual, .cons found denoted, .cons alike alikes⟩

/-- Inference on the graph is inference on the nodes that its ids stand for. -/
theorem Serves.denote {graph : Graph} {op : Op} {ids : List NodeId} {nodes : List Node}
    (serves : graph.Serves op ids nodes) :
    ∃ actual, graph.Denote ids actual ∧ List.Forall₂ Node.Alike actual nodes ∧
      op.infer actual = op.infer nodes := by
  obtain ⟨actual, denoted, alike⟩ := denote_of_typed serves.typed
  refine ⟨actual, denoted, alike, Op.infer_congr op alike ?_⟩
  intro position member
  rw [← denoted.bind_node? position]
  have idsLength := denoted.length_eq
  have nodesLength := alike.length_eq
  cases first : ids[position]? with
  | none =>
    have past : nodes[position]? = none := by
      rw [List.getElem?_eq_none_iff] at first ⊢
      omega
    simp [past]
  | some id =>
    obtain ⟨below, _⟩ := List.getElem?_eq_some_iff.1 first
    have inside : position < nodes.length := by omega
    have second := List.getElem?_eq_getElem inside
    obtain ⟨held, found, _, integers⟩ := serves.held position member id _ first second
    rw [second]
    simpa [found] using integers

theorem Serves.of_typed {graph : Graph} {op : Op} {ids : List NodeId} {nodes : List Node}
    (plain : op.integerPositions = [])
    (typed : List.Forall₂ (fun id node => graph.Typed id node.outputType) ids nodes) :
    graph.Serves op ids nodes := by
  refine ⟨typed, ?_⟩
  intro position member
  simp [plain] at member

theorem Serves.of_second {graph : Graph} {op : Op} {data second : NodeId} {node held : Node}
    (positions : op.integerPositions = [1]) (typed : graph.Typed data node.outputType)
    (holds : graph.Holds second held) : graph.Serves op [data, second] [node, held] := by
  refine ⟨.cons typed (.cons holds.typed .nil), ?_⟩
  intro position member
  rw [positions, List.mem_singleton] at member
  subst member
  intro id node first other
  cases first
  cases other
  exact holds

end Graph

/-! ## Agreement -/

section Agreement

variable {α β γ δ : Type}

/-- A step on a draft and its counterpart on types fail alike, or the step gives a value that shows what
is told of it, on a graph that has grown by the convolutions told. -/
def Ends (Shows : Graph → α → β → Prop) (step : Emit α) (draft : Draft) (typing : Typing β) : Prop :=
  ∀ uses, match typing.run uses with
    | .ok (told, all) => ∃ value after more, step draft = .ok value after ∧ all = uses ++ more ∧
        draft.graph.Grows after.graph more ∧ Shows after.graph value told
    | .error failure => ∃ after, step draft = .error failure after

variable {Shows : Graph → α → β → Prop} {step : Emit α} {draft : Draft} {typing : Typing β}

theorem Ends.of_ok (ends : Ends Shows step draft typing) {uses all : List FilterUse} {told : β}
    (success : typing.run uses = .ok (told, all)) :
    ∃ value after more, step draft = .ok value after ∧ all = uses ++ more ∧
      draft.graph.Grows after.graph more ∧ Shows after.graph value told := by
  have outcome := ends uses
  rwa [success] at outcome

theorem Ends.of_error (ends : Ends Shows step draft typing) {uses : List FilterUse}
    {failure : Failure} (failed : typing.run uses = .error failure) :
    ∃ after, step draft = .error failure after := by
  have outcome := ends uses
  rwa [failed] at outcome

theorem Ends.ok_of_run (ends : Ends Shows step draft typing) {value : α} {after : Draft}
    (ran : step draft = .ok value after) :
    ∃ told uses, typing.run [] = .ok (told, uses) ∧ draft.graph.Grows after.graph uses ∧
      Shows after.graph value told := by
  cases outcome : typing.run [] with
  | error failure =>
    obtain ⟨_, failed⟩ := ends.of_error outcome
    rw [ran] at failed
    cases failed
  | ok result =>
    obtain ⟨value', after', more, ran', split, grows, shown⟩ := ends.of_ok outcome
    rw [ran] at ran'
    cases ran'
    rw [List.nil_append] at split
    exact ⟨_, more, by rw [← split], grows, shown⟩

theorem Ends.bind {Shows' : Graph → γ → δ → Prop} {next : α → Emit γ} {following : β → Typing δ}
    (first : Ends Shows step draft typing)
    (rest : ∀ value after told, draft.graph.Extends after.graph → Shows after.graph value told →
      Ends Shows' (next value) after (following told)) :
    Ends Shows' (step >>= next) draft (typing >>= following) := by
  intro uses
  rw [StateT.run_bind]
  cases outcome : typing.run uses with
  | error failure =>
    obtain ⟨after, failed⟩ := first.of_error outcome
    exact ⟨after, run_bind_of_error failed next⟩
  | ok result =>
    obtain ⟨told, all⟩ := result
    obtain ⟨value, between, more, ran, rfl, grows, shown⟩ := first.of_ok outcome
    have later := rest value between told grows.longer shown
    rw [ok_bind]
    cases second : (following told).run (uses ++ more) with
    | error failure =>
      obtain ⟨after, failed⟩ := later.of_error second
      exact ⟨after, by rw [run_bind_of_ok ran, failed]⟩
    | ok result =>
      obtain ⟨told', all⟩ := result
      obtain ⟨value', after, more', ran', rfl, grows', shown'⟩ := later.of_ok second
      exact ⟨value', after, more ++ more', by rw [run_bind_of_ok ran, ran'],
        List.append_assoc .., grows.trans grows', shown'⟩

theorem Ends.after {Shows' : Graph → γ → β → Prop} {value : α} {after : Draft} {next : α → Emit γ}
    (ran : step draft = .ok value after) (grows : draft.graph.Grows after.graph [])
    (rest : Ends Shows' (next value) after typing) : Ends Shows' (step >>= next) draft typing := by
  intro uses
  rw [run_bind_of_ok ran]
  cases outcome : typing.run uses with
  | error failure => exact rest.of_error outcome
  | ok result =>
    obtain ⟨told, all⟩ := result
    obtain ⟨value', last, more, ran', split, grows', shown⟩ := rest.of_ok outcome
    exact ⟨value', last, more, ran', split, grows.trans grows', shown⟩

theorem ends_pure {value : α} {told : β} (shown : Shows draft.graph value told) :
    Ends Shows (pure value) draft (pure told) := by
  intro uses
  exact ⟨value, draft, [], rfl, (List.append_nil uses).symm, .refl _, shown⟩

theorem ends_throw (failure : Failure) : Ends Shows (throw failure) draft (throw failure) := by
  intro uses
  exact ⟨draft, rfl⟩

theorem ends_lift {lookup : Except Failure α} {counterpart : Except Failure β}
    (shown : ∀ value, lookup = .ok value →
      ∃ told, counterpart = .ok told ∧ Shows draft.graph value told)
    (failed : ∀ failure, lookup = .error failure → counterpart = .error failure) :
    Ends Shows (liftM lookup) draft (liftM counterpart) := by
  cases found : lookup with
  | error failure =>
    rw [failed failure found]
    exact ends_throw failure
  | ok value =>
    obtain ⟨told, same, shown⟩ := shown value found
    rw [same]
    exact ends_pure shown

theorem ends_lift_self (lookup : Except Failure α) :
    Ends (fun _ value told => value = told) (liftM lookup) draft (liftM lookup) :=
  ends_lift (fun value found => ⟨value, found, rfl⟩) (fun _ missed => missed)

end Agreement

/-! ## Single steps -/

section Steps

theorem Emit.run_op_of_ok {draft : Draft} {op : Op} {ids : List NodeId} {added : Node × Graph}
    (success : draft.graph.addOp op ids = .ok added) :
    Emit.op op ids draft = .ok added.1 { draft with graph := added.2 } := by
  rw [Emit.op, run_bind_of_ok (run_get draft), success]
  rfl

theorem Emit.run_op_of_error {draft : Draft} {op : Op} {ids : List NodeId} {error : ShapeError}
    (failed : draft.graph.addOp op ids = .error error) :
    Emit.op op ids draft = .error (.obstructed (.shape error)) draft := by
  rw [Emit.op, run_bind_of_ok (run_get draft), failed]
  rfl

variable (draft : Draft)

theorem holds_int32Constant (graph : Graph) (values : List Int32) :
    (graph.addInt32Constant values).2.Holds (graph.addInt32Constant values).1.id
      (.ofInt32s values) :=
  ⟨_, Graph.node?_push_self graph _ [] _, rfl, rfl⟩

theorem holds_int64Constant (graph : Graph) (values : List Int64) :
    (graph.addInt64Constant values).2.Holds (graph.addInt64Constant values).1.id
      (.ofInt64s values) :=
  ⟨_, Graph.node?_push_self graph _ [] _, rfl, rfl⟩

variable {α β : Type} {Shows : Graph → α → β → Prop} {typing : Typing β} {draft}

theorem Ends.after_note (event : Event) {next : Unit → Emit α}
    (rest : ∀ after : Draft, after.graph = draft.graph → Ends Shows (next ()) after typing) :
    Ends Shows (Emit.note event >>= next) draft typing :=
  Ends.after rfl (.refl _) (rest _ rfl)

theorem Ends.after_int32Constant (values : List Int32) {next : Node → Emit α}
    (rest : ∀ constant after, draft.graph.Extends after.graph →
      after.graph.Holds constant.id (.ofInt32s values) → Ends Shows (next constant) after typing) :
    Ends Shows (Emit.int32Constant values >>= next) draft typing := by
  have ran : Emit.int32Constant values draft = .ok (draft.graph.addInt32Constant values).1
      { draft with graph := (draft.graph.addInt32Constant values).2 } := rfl
  have grows : draft.graph.Grows (draft.graph.addInt32Constant values).2 [] :=
    Graph.grows_push_source _ _ rfl _
  exact Ends.after ran grows (rest _ _ grows.longer (holds_int32Constant draft.graph values))

theorem Ends.after_int64Constant (values : List Int64) {next : Node → Emit α}
    (rest : ∀ constant after, draft.graph.Extends after.graph →
      after.graph.Holds constant.id (.ofInt64s values) → Ends Shows (next constant) after typing) :
    Ends Shows (Emit.int64Constant values >>= next) draft typing := by
  have ran : Emit.int64Constant values draft = .ok (draft.graph.addInt64Constant values).1
      { draft with graph := (draft.graph.addInt64Constant values).2 } := rfl
  have grows : draft.graph.Grows (draft.graph.addInt64Constant values).2 [] :=
    Graph.grows_push_source _ _ rfl _
  exact Ends.after ran grows (rest _ _ grows.longer (holds_int64Constant draft.graph values))

/-- An operation on ids that stand for nodes like the given ones. -/
theorem ends_op {op : Op} {ids : List NodeId} {nodes : List Node}
    (serves : draft.graph.Serves op ids nodes) :
    Ends Graph.Yields (Emit.op op ids) draft (Typing.op op nodes) := by
  intro uses
  obtain ⟨actual, denoted, alike, same⟩ := serves.denote
  have inferred : draft.graph.infer op ids = op.infer nodes := by
    rw [Graph.infer_of_resolve (Graph.resolve_eq_ok.2 denoted), same]
  have filters : op.filterUses actual = op.filterUses nodes := by
    have second : actual[1]?.map Node.shape = nodes[1]?.map Node.shape := by
      rcases alike with _ | ⟨_, _ | ⟨second, _⟩⟩
      · rfl
      · rfl
      · simpa using second.shape
    rw [Op.filterUses, Op.filterUses, second]
  cases outcome : op.infer nodes with
  | error error =>
    have refused : draft.graph.addOp op ids = .error error := by
      rw [Graph.addOp, inferred, outcome, error_bind]
    have typed : (Typing.op op nodes).run uses = .error (.obstructed (.shape error)) := by
      rw [Typing.op, outcome]
      rfl
    rw [typed]
    exact ⟨draft, Emit.run_op_of_error refused⟩
  | ok type =>
    have added : draft.graph.addOp op ids = .ok (draft.graph.push op ids type) := by
      rw [Graph.addOp, inferred, outcome, ok_bind, pure_eq_ok]
    have typed : (Typing.op op nodes).run uses = .ok (type, uses ++ op.filterUses nodes) := by
      rw [Typing.op, outcome]
      rfl
    rw [typed]
    refine ⟨_, _, op.filterUses nodes, Emit.run_op_of_ok added, rfl, ?_, ?_⟩
    · rw [← filters]
      exact Graph.grows_push draft.graph op denoted type
    · exact ⟨Graph.node?_push_self draft.graph op ids type, rfl⟩

theorem Ends.after_op {op : Op} {ids : List NodeId} {nodes : List Node} {type : OutputType}
    {next : Node → Emit α} (serves : draft.graph.Serves op ids nodes)
    (inferred : op.infer nodes = .ok type) (plain : op.isConvolution = false)
    (rest : ∀ node after, draft.graph.Extends after.graph → after.graph.Yields node type →
      Ends Shows (next node) after typing) :
    Ends Shows (Emit.op op ids >>= next) draft typing := by
  have typed : (Typing.op op nodes).run [] = .ok (type, op.filterUses nodes) := by
    rw [Typing.op, inferred]
    rfl
  have none : op.filterUses nodes = [] := by
    rw [Op.filterUses, plain]
    rfl
  obtain ⟨node, after, more, ran, split, grows, yields⟩ := (ends_op serves).of_ok typed
  rw [none, List.nil_append] at split
  subst split
  exact Ends.after ran grows (rest node after grows.longer yields)

end Steps

theorem Ends.run_ok {α β : Type} {Shows : Graph → α → β → Prop} {step : Emit α} {draft : Draft}
    {told : β} (ends : Ends Shows step draft (pure told)) :
    ∃ value after, step draft = .ok value after ∧ draft.graph.Extends after.graph ∧
      Shows after.graph value told := by
  have success : (pure told : Typing β).run [] = .ok (told, []) := rfl
  obtain ⟨value, after, more, ran, _, grows, shown⟩ := ends.of_ok success
  exact ⟨value, after, ran, grows.longer, shown⟩

end PartitionLowering
