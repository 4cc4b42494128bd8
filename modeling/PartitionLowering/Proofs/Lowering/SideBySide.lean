import PartitionLowering.Proofs.Running
import PartitionLowering.Proofs.Engine.Extension

/-!
Two runs side by side.  `Alike` and `Agree` say of two look-ups, or of two steps on states, that both
succeed with related results or both fail alike; sequences of agreeing steps agree (`Agree.bind`).  The
second run may know the operands under other indices: failures are compared up to `Failure.rename`.

A `Likeness` is a way of comparing the graphs of two runs that inference cannot see through: what it
relates stays related when nodes are added (`emits_op`, `emits_int32Constant`, `emits_int64Constant`).
-/

set_option autoImplicit false

namespace PartitionLowering

/-! ## Operands under other indices -/

abbrev Renaming := OperandIndex → OperandIndex

def Misuse.rename (names : Renaming) : Misuse → Misuse
  | .inputIndex index => .inputIndex (names index)
  | .inputWithoutDims index => .inputWithoutDims (names index)
  | .constantIndex index => .constantIndex (names index)
  | .constantWithoutDims index => .constantWithoutDims (names index)
  | .constantWithoutData index => .constantWithoutData (names index)
  | .payloadSize index got expected => .payloadSize (names index) got expected
  | .constantShape index error => .constantShape (names index) error
  | misuse => misuse

def Failure.rename (names : Renaming) : Failure → Failure
  | .missingOperand index => .missingOperand (names index)
  | .invalidArgument misuse => .invalidArgument (misuse.rename names)
  | failure => failure

@[simp] theorem Failure.rename_id (failure : Failure) : failure.rename id = failure := by
  cases failure with
  | invalidArgument misuse => cases misuse <;> rfl
  | _ => rfl

/-! ## Look-ups -/

section LookUps

variable {α β γ δ : Type} {names : Renaming}

def Alike (names : Renaming) (Related : α → β → Prop) (lookup : Except Failure α)
    (other : Except Failure β) : Prop :=
  (∃ value value', lookup = .ok value ∧ other = .ok value' ∧ Related value value') ∨
    ∃ failure, lookup = .error failure ∧ other = .error (failure.rename names)

theorem alike_ok {Related : α → β → Prop} {value : α} {value' : β} (related : Related value value') :
    Alike names Related (.ok value) (.ok value') :=
  .inl ⟨value, value', rfl, rfl, related⟩

theorem alike_error {Related : α → β → Prop} (failure : Failure) :
    Alike names Related (.error failure) (.error (failure.rename names)) :=
  .inr ⟨failure, rfl, rfl⟩

theorem Alike.bind {Related : α → β → Prop} {Related' : γ → δ → Prop} {lookup : Except Failure α}
    {other : Except Failure β} {next : α → Except Failure γ} {next' : β → Except Failure δ}
    (first : Alike names Related lookup other)
    (rest : ∀ value value', Related value value' → Alike names Related' (next value) (next' value')) :
    Alike names Related' (lookup >>= next) (other >>= next') := by
  rcases first with ⟨value, value', found, found', related⟩ | ⟨failure, missed, missed'⟩
  · rw [found, found', ok_bind, ok_bind]
    exact rest value value' related
  · rw [missed, missed', error_bind, error_bind]
    exact alike_error failure

theorem rel_cases {Related : α → β → Prop} {first : Option α} {second : Option β}
    (rel : Option.Rel Related first second) :
    first = none ∧ second = none ∨
      ∃ value value', first = some value ∧ second = some value' ∧ Related value value' := by
  cases rel with
  | none => exact .inl ⟨rfl, rfl⟩
  | some related => exact .inr ⟨_, _, rfl, rfl, related⟩

/-- A look-up that fails for an obstacle alone, and so names no operand. -/
def Obstructs (lookup : Except Failure α) : Prop :=
  ∀ failure, lookup = .error failure → ∃ obstacle, failure = .obstructed obstacle

theorem obstructs_ok (value : α) : Obstructs (.ok value) := by
  intro failure failed
  cases failed

theorem obstructs_error (obstacle : Obstacle) :
    Obstructs (.error (.obstructed obstacle) : Except Failure α) := by
  intro failure failed
  cases failed
  exact ⟨obstacle, rfl⟩

theorem Obstructs.bind {lookup : Except Failure α} {next : α → Except Failure γ}
    (first : Obstructs lookup) (rest : ∀ value, Obstructs (next value)) :
    Obstructs (lookup >>= next) := by
  intro failure failed
  cases outcome : lookup with
  | ok value => exact rest value failure (by rwa [outcome] at failed)
  | error earlier =>
    have same : earlier = failure := by
      rw [outcome, error_bind] at failed
      exact Except.error.inj failed
    subst same
    exact first earlier outcome

theorem alike_same {lookup : Except Failure α} (obstructs : Obstructs lookup) :
    Alike names Eq lookup lookup := by
  cases outcome : lookup with
  | ok value => exact alike_ok rfl
  | error failure =>
    obtain ⟨obstacle, rfl⟩ := obstructs failure outcome
    exact alike_error (.obstructed obstacle)

theorem alike_mapM {Related : α → β → Prop} {lookup : Nat → Except Failure α}
    {other : Nat → Except Failure β} {positions : List Nat}
    (each : ∀ position ∈ positions, Alike names Related (lookup position) (other position)) :
    Alike names (List.Forall₂ Related) (positions.mapM lookup) (positions.mapM other) := by
  induction positions with
  | nil => exact alike_ok .nil
  | cons position rest ih =>
    rw [List.mapM_cons, List.mapM_cons]
    apply (each position List.mem_cons_self).bind
    intro value value' related
    apply (ih fun later member => each later (List.mem_cons_of_mem _ member)).bind
    intro values values' relateds
    exact alike_ok (.cons related relateds)

end LookUps

/-! ## Steps -/

section Steps

variable {σ τ α β γ δ : Type} {names : Renaming}

/-- Both steps give values and are related after it, or both fail alike. -/
def Agree (names : Renaming) (Related : σ → τ → α → β → Prop) (step : EStateM Failure σ α) (state : σ)
    (other : EStateM Failure τ β) (state' : τ) : Prop :=
  (∃ value value' after after', step state = .ok value after ∧ other state' = .ok value' after' ∧
      Related after after' value value') ∨
    ∃ failure after after', step state = .error failure after ∧
      other state' = .error (failure.rename names) after'

variable {Related : σ → τ → α → β → Prop} {step : EStateM Failure σ α} {state : σ}
  {other : EStateM Failure τ β} {state' : τ}

theorem agree_ok {value : α} {value' : β} {after : σ} {after' : τ}
    (ran : step state = .ok value after) (ran' : other state' = .ok value' after')
    (related : Related after after' value value') : Agree names Related step state other state' :=
  .inl ⟨value, value', after, after', ran, ran', related⟩

theorem agree_throw (failure : Failure) :
    Agree names Related (throw failure) state (throw (failure.rename names)) state' :=
  .inr ⟨failure, state, state', rfl, rfl⟩

theorem Agree.bind {Related' : σ → τ → γ → δ → Prop} {next : α → EStateM Failure σ γ}
    {next' : β → EStateM Failure τ δ} (first : Agree names Related step state other state')
    (rest : ∀ value value' after after', Related after after' value value' →
      Agree names Related' (next value) after (next' value') after') :
    Agree names Related' (step >>= next) state (other >>= next') state' := by
  rcases first with
    ⟨value, value', after, after', ran, ran', related⟩ | ⟨failure, after, after', failed, failed'⟩
  · rw [Agree, run_bind_of_ok ran, run_bind_of_ok ran']
    exact rest value value' after after' related
  · exact .inr ⟨failure, after, after', run_bind_of_error failed next, run_bind_of_error failed' next'⟩

theorem Agree.imp {Related' : σ → τ → α → β → Prop}
    (agree : Agree names Related step state other state')
    (weaker : ∀ after after' value value', Related after after' value value' →
      Related' after after' value value') : Agree names Related' step state other state' := by
  rcases agree with ⟨value, value', after, after', ran, ran', related⟩ | failed
  · exact .inl ⟨value, value', after, after', ran, ran', weaker _ _ _ _ related⟩
  · exact .inr failed

theorem agree_lift {Related : σ → τ → α → β → Prop} {lookup : Except Failure α}
    {other : Except Failure β} (alike : Alike names (Related state state') lookup other) :
    Agree names Related (liftM lookup) state (liftM other) state' := by
  rcases alike with ⟨value, value', found, found', related⟩ | ⟨failure, missed, missed'⟩
  · exact agree_ok (run_lift_ok found state) (run_lift_ok found' state') related
  · exact .inr ⟨failure, state, state', run_lift_error missed state, run_lift_error missed' state'⟩

/-- A look-up leaves the states as they are. -/
theorem agree_lookup {Found : γ → δ → Prop} {lookup : Except Failure γ} {other : Except Failure δ}
    {next : γ → EStateM Failure σ α} {next' : δ → EStateM Failure τ β}
    (alike : Alike names Found lookup other)
    (rest : ∀ value value', Found value value' →
      Agree names Related (next value) state (next' value') state') :
    Agree names Related (liftM lookup >>= next) state (liftM other >>= next') state' := by
  rcases alike with ⟨value, value', found, found', shown⟩ | ⟨failure, missed, missed'⟩
  · rw [Agree, run_bind_of_ok (run_lift_ok found state), run_bind_of_ok (run_lift_ok found' state')]
    exact rest value value' shown
  · exact .inr ⟨failure, state, state', run_bind_of_error (run_lift_error missed state) next,
      run_bind_of_error (run_lift_error missed' state') next'⟩

theorem agree_get {next : σ → EStateM Failure σ α} {next' : τ → EStateM Failure τ β}
    (rest : Agree names Related (next state) state (next' state') state') :
    Agree names Related (get >>= next) state (get >>= next') state' := by
  rw [Agree, run_bind_of_ok (run_get state), run_bind_of_ok (run_get state')]
  exact rest

theorem Agree.ok_of_run (agree : Agree names Related step state other state') {value : α} {after : σ}
    (ran : step state = .ok value after) :
    ∃ value' after', other state' = .ok value' after' ∧ Related after after' value value' := by
  rcases agree with ⟨_, value', _, after', ran₁, ran', related⟩ | ⟨_, _, _, failed, _⟩
  · rw [ran] at ran₁
    cases ran₁
    exact ⟨value', after', ran', related⟩
  · rw [ran] at failed
    cases failed

end Steps

/-! ## Graphs of two runs -/

/-- A way of comparing two graphs and the nodes in them, which further nodes do not upset. -/
structure Likeness where
  Graphs : Graph → Graph → Prop
  Ids : Graph → Graph → NodeId → NodeId → Prop
  mono : ∀ {graph graph' longer longer' : Graph} {id id' : NodeId}, graph.Extends longer →
    graph'.Extends longer' → Ids graph graph' id id' → Ids longer longer' id id'
  typed : ∀ {graph graph' : Graph} {id id' : NodeId}, Graphs graph graph' →
    Ids graph graph' id id' →
      (graph.node? id).map Node.outputType = (graph'.node? id').map Node.outputType
  infer : ∀ {graph graph' : Graph} {ids ids' : List NodeId}, Graphs graph graph' →
    List.Forall₂ (Ids graph graph') ids ids' → ∀ op, graph.infer op ids = graph'.infer op ids'
  push : ∀ {graph graph' : Graph} {ids ids' : List NodeId}, Graphs graph graph' →
    List.Forall₂ (Ids graph graph') ids ids' → ∀ op, op ≠ .parameter → ∀ type,
      Graphs (graph.push op ids type).2 (graph'.push op ids' type).2 ∧
        Ids (graph.push op ids type).2 (graph'.push op ids' type).2 graph.size graph'.size

namespace Likeness

variable (like : Likeness)

structure Steps (draft draft' after after' : Draft) : Prop where
  left : draft.graph.Extends after.graph
  right : draft'.graph.Extends after'.graph
  graphs : like.Graphs after.graph after'.graph

def Nodes (graph graph' : Graph) (node node' : Node) : Prop :=
  like.Ids graph graph' node.id node'.id ∧ node.shape = node'.shape

variable {like} {α β γ δ : Type} {names : Renaming}

theorem Steps.refl {draft draft' : Draft} (graphs : like.Graphs draft.graph draft'.graph) :
    like.Steps draft draft' draft draft' :=
  ⟨.refl _, .refl _, graphs⟩

theorem Steps.trans {draft draft' between between' after after' : Draft}
    (first : like.Steps draft draft' between between')
    (second : like.Steps between between' after after') : like.Steps draft draft' after after' :=
  ⟨first.left.trans second.left, first.right.trans second.right, second.graphs⟩

theorem Steps.ids {draft draft' after after' : Draft} (steps : like.Steps draft draft' after after')
    {id id' : NodeId} (same : like.Ids draft.graph draft'.graph id id') :
    like.Ids after.graph after'.graph id id' :=
  like.mono steps.left steps.right same

theorem Steps.nodes {draft draft' after after' : Draft} (steps : like.Steps draft draft' after after')
    {node node' : Node} (same : like.Nodes draft.graph draft'.graph node node') :
    like.Nodes after.graph after'.graph node node' :=
  ⟨steps.ids same.1, same.2⟩

def Emits (like : Likeness) (names : Renaming) (Shows : Graph → Graph → α → β → Prop) (step : Emit α)
    (draft : Draft) (other : Emit β) (draft' : Draft) : Prop :=
  like.Graphs draft.graph draft'.graph →
    Agree names (fun after after' value value' =>
      like.Steps draft draft' after after' ∧ Shows after.graph after'.graph value value')
      step draft other draft'

variable {Shows : Graph → Graph → α → β → Prop} {step : Emit α} {draft : Draft} {other : Emit β}
  {draft' : Draft}

theorem Emits.bind {Shows' : Graph → Graph → γ → δ → Prop} {next : α → Emit γ} {next' : β → Emit δ}
    (first : like.Emits names Shows step draft other draft')
    (rest : ∀ value value' after after', like.Steps draft draft' after after' →
      Shows after.graph after'.graph value value' →
        like.Emits names Shows' (next value) after (next' value') after') :
    like.Emits names Shows' (step >>= next) draft (other >>= next') draft' := by
  intro graphs
  apply (first graphs).bind
  rintro value value' after after' ⟨steps, shown⟩
  apply (rest value value' after after' steps shown steps.graphs).imp
  rintro last last' result result' ⟨later, shown'⟩
  exact ⟨steps.trans later, shown'⟩

theorem emits_pure {value : α} {value' : β}
    (shown : Shows draft.graph draft'.graph value value') :
    like.Emits names Shows (pure value) draft (pure value') draft' := by
  intro graphs
  exact agree_ok rfl rfl ⟨.refl graphs, shown⟩

theorem Emits.map {Shows' : Graph → Graph → γ → δ → Prop} {f : α → γ} {f' : β → δ}
    (first : like.Emits names Shows step draft other draft')
    (shown : ∀ graph graph' value value', Shows graph graph' value value' →
      Shows' graph graph' (f value) (f' value')) :
    like.Emits names Shows' (step >>= fun value => pure (f value)) draft
      (other >>= fun value => pure (f' value)) draft' := by
  apply first.bind
  intro value value' after after' _ shows_value
  exact emits_pure (shown _ _ _ _ shows_value)

theorem emits_throw (failure : Failure) :
    like.Emits names Shows (throw failure) draft (throw (failure.rename names)) draft' := by
  intro _
  exact agree_throw failure

theorem emits_lift {lookup : Except Failure α} {other : Except Failure β}
    (alike : Alike names (Shows draft.graph draft'.graph) lookup other) :
    like.Emits names Shows (liftM lookup) draft (liftM other) draft' := by
  intro graphs
  apply agree_lift
  rcases alike with ⟨value, value', found, found', shown⟩ | missed
  · exact .inl ⟨value, value', found, found', .refl graphs, shown⟩
  · exact .inr missed

theorem emits_eq {lookup other : Except Failure α} (alike : Alike names Eq lookup other) :
    like.Emits names (fun _ _ => Eq) (liftM lookup) draft (liftM other) draft' :=
  emits_lift alike

theorem emits_same {lookup : Except Failure α} (obstructs : Obstructs lookup) :
    like.Emits names (fun _ _ => Eq) (liftM lookup) draft (liftM lookup) draft' :=
  emits_eq (alike_same obstructs)

theorem emits_get {next : Draft → Emit α} {next' : Draft → Emit β}
    (rest : like.Emits names Shows (next draft) draft (next' draft') draft') :
    like.Emits names Shows (get >>= next) draft (get >>= next') draft' := by
  intro graphs
  exact agree_get (rest graphs)

theorem emits_note (event event' : Event) :
    like.Emits names (fun _ _ _ _ => True) (Emit.note event) draft (Emit.note event') draft' := by
  intro graphs
  exact agree_ok rfl rfl ⟨⟨.refl _, .refl _, graphs⟩, trivial⟩

/-! ### Nodes that are added -/

/-- The same operation is added on both sides, on inputs that are alike. -/
theorem emits_push {op : Op} (kind : op ≠ .parameter) {ids ids' : List NodeId}
    (same : List.Forall₂ (like.Ids draft.graph draft'.graph) ids ids') (type : OutputType) :
    like.Emits names like.Nodes (Emit.keep (draft.graph.push op ids type)) draft
      (Emit.keep (draft'.graph.push op ids' type)) draft' := by
  intro graphs
  obtain ⟨graphs', here⟩ := like.push graphs same op kind type
  refine agree_ok rfl rfl ⟨⟨?_, ?_, graphs'⟩, here, rfl⟩
  · exact Graph.extends_push draft.graph op ids type
  · exact Graph.extends_push draft'.graph op ids' type

theorem emits_int32Constant (values : List Int32) :
    like.Emits names like.Nodes (Emit.int32Constant values) draft (Emit.int32Constant values)
      draft' := by
  intro graphs
  rw [Emit.int32Constant]
  apply agree_get
  have kind : Op.constant (values.flatMap LittleEndian.encodeInt32) ≠ .parameter := nofun
  exact emits_push kind .nil ([values.length], .i32) graphs

theorem emits_int64Constant (values : List Int64) :
    like.Emits names like.Nodes (Emit.int64Constant values) draft (Emit.int64Constant values)
      draft' := by
  intro graphs
  rw [Emit.int64Constant]
  apply agree_get
  have kind : Op.constant (values.flatMap LittleEndian.encodeInt64) ≠ .parameter := nofun
  exact emits_push kind .nil ([values.length], .i64) graphs

/-- An operation on inputs that are alike has one outcome on both sides. -/
theorem emits_op (op : Op) {ids ids' : List NodeId}
    (same : List.Forall₂ (like.Ids draft.graph draft'.graph) ids ids') :
    like.Emits names like.Nodes (Emit.op op ids) draft (Emit.op op ids') draft' := by
  intro graphs
  apply agree_get
  have inferred := like.infer graphs same op
  cases outcome : draft.graph.infer op ids with
  | error error =>
    rw [outcome] at inferred
    have left : draft.graph.addOp op ids = .error error := by rw [Graph.addOp, outcome, error_bind]
    have right : draft'.graph.addOp op ids' = .error error := by
      rw [Graph.addOp, ← inferred, error_bind]
    rw [left, right]
    exact agree_throw (.obstructed (.shape error))
  | ok type =>
    rw [outcome] at inferred
    have left : draft.graph.addOp op ids = .ok (draft.graph.push op ids type) := by
      rw [Graph.addOp, outcome, ok_bind, pure_eq_ok]
    have right : draft'.graph.addOp op ids' = .ok (draft'.graph.push op ids' type) := by
      rw [Graph.addOp, ← inferred, ok_bind, pure_eq_ok]
    have kind : op ≠ .parameter := by
      rintro rfl
      obtain ⟨_, _, typed⟩ := Graph.infer_eq_ok.1 outcome
      cases typed
    rw [left, right]
    exact emits_push kind same type graphs

theorem emits_transpose {id id' : NodeId} (same : like.Ids draft.graph draft'.graph id id')
    (order : List Int64) :
    like.Emits names like.Nodes (Emit.transpose id order) draft (Emit.transpose id' order) draft' := by
  apply (emits_int64Constant order).bind
  intro constant constant' after after' steps there
  exact emits_op .transpose (.cons (steps.ids same) (.cons there.1 .nil))

end Likeness

end PartitionLowering
