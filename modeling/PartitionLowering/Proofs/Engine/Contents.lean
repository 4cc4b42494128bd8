import PartitionLowering.Proofs.Engine.Extension
import PartitionLowering.Proofs.Engine.Extents
import PartitionLowering.Proofs.Engine.Layouts

/-!
What tensors hold.  A `Content` gives a shape and an element at each index.  A reshape keeps each element at
its row-major position (`Content.element_reshape?`), a transpose moves it to where the order says
(`Content.coordinate_gathered`).  `Graph.Carries` tells what a node of a graph holds when its parameters are fed,
where it is one or is rearranged from one.
-/

set_option autoImplicit false

namespace PartitionLowering

/-! ## Row-major positions -/

namespace Shape

abbrev Within (shape : Shape) (index : List Nat) : Prop :=
  List.Forall₂ (fun coordinate extent => coordinate < extent) index shape

def position : Shape → List Nat → Nat
  | _ :: rest, coordinate :: index => coordinate * rest.prod + position rest index
  | _, _ => 0

def indexAt : Shape → Nat → List Nat
  | [], _ => []
  | _ :: rest, place => place / rest.prod :: indexAt rest (place % rest.prod)

theorem position_lt {shape : Shape} {index : List Nat} (within : shape.Within index) :
    shape.position index < shape.prod := by
  induction within with
  | nil => decide
  | @cons coordinate extent index rest below _ ih =>
    rw [position, List.prod_cons]
    calc coordinate * rest.prod + position rest index
        < coordinate * rest.prod + rest.prod := Nat.add_lt_add_left ih _
      _ = (coordinate + 1) * rest.prod := (Nat.succ_mul _ _).symm
      _ ≤ extent * rest.prod := Nat.mul_le_mul_right _ below

theorem indexAt_position {shape : Shape} {index : List Nat} (within : shape.Within index) :
    shape.indexAt (shape.position index) = index := by
  induction within with
  | nil => rfl
  | @cons coordinate extent index rest _ later ih =>
    have below := position_lt later
    have some_rest : 0 < rest.prod := by omega
    have place : coordinate * rest.prod + position rest index =
        position rest index + rest.prod * coordinate := by
      rw [Nat.mul_comm, Nat.add_comm]
    rw [position, indexAt, place, Nat.add_mul_div_left _ _ some_rest, Nat.div_eq_of_lt below,
      Nat.zero_add, Nat.add_mul_mod_self_left, Nat.mod_eq_of_lt below, ih]

theorem within_indexAt {shape : Shape} {place : Nat} (below : place < shape.prod) :
    shape.Within (shape.indexAt place) := by
  induction shape generalizing place with
  | nil => exact .nil
  | cons extent rest ih =>
    rw [List.prod_cons, Nat.mul_comm] at below
    have some_rest : 0 < rest.prod := Nat.pos_of_mul_pos_right (Nat.zero_lt_of_lt below)
    exact .cons (Nat.div_lt_of_lt_mul below) (ih (Nat.mod_lt place some_rest))

theorem position_indexAt {shape : Shape} {place : Nat} (below : place < shape.prod) :
    shape.position (shape.indexAt place) = place := by
  induction shape generalizing place with
  | nil =>
    have none : place = 0 := Nat.lt_one_iff.1 below
    rw [none]
    rfl
  | cons extent rest ih =>
    rw [List.prod_cons, Nat.mul_comm] at below
    have some_rest : 0 < rest.prod := Nat.pos_of_mul_pos_right (Nat.zero_lt_of_lt below)
    rw [indexAt, position, ih (Nat.mod_lt place some_rest), Nat.mul_comm, Nat.div_add_mod]

/-! ### Ones in front -/

/-- Coordinates along ones do not count. -/
theorem position_padLeft {rank : Nat} {shape : Shape} {index : List Nat}
    (within : (padLeft rank shape).Within index) :
    (padLeft rank shape).position index = shape.position (index.drop (rank - shape.length)) ∧
      shape.Within (index.drop (rank - shape.length)) := by
  rw [padLeft] at within ⊢
  generalize rank - shape.length = ones at within ⊢
  induction ones generalizing index with
  | zero => exact ⟨rfl, within⟩
  | succ ones ih =>
    cases within with
    | @cons coordinate _ index _ below later =>
      have first : coordinate = 0 := Nat.lt_one_iff.1 below
      obtain ⟨place, inside⟩ := ih later
      refine ⟨?_, inside⟩
      change coordinate * _ + position (List.replicate ones 1 ++ shape) index = _
      rw [first, Nat.zero_mul, Nat.zero_add]
      exact place

theorem drop_indexAt_padLeft {rank : Nat} {shape : Shape} {place : Nat} (below : place < shape.prod) :
    ((padLeft rank shape).indexAt place).drop (rank - shape.length) = shape.indexAt place := by
  rw [padLeft]
  generalize rank - shape.length = ones
  induction ones with
  | zero => rfl
  | succ ones ih =>
    have whole : (List.replicate ones 1 ++ shape).prod = shape.prod := by simp
    rw [List.replicate_succ, List.cons_append, indexAt, List.drop_succ_cons, whole,
      Nat.mod_eq_of_lt below, ih]

end Shape

/-! ## Contents -/

/-- A shape and an element at each index. -/
structure Content (α : Type) where
  shape : Shape
  element : List Nat → α

namespace Content

variable {α : Type}

def Agrees (first second : Content α) : Prop :=
  first.shape = second.shape ∧
    ∀ index, second.shape.Within index → first.element index = second.element index

/-- The same elements, with ones in front of the extents. -/
def padLeft (rank : Nat) (content : Content α) : Content α where
  shape := Shape.padLeft rank content.shape
  element index := content.element (index.drop (rank - content.shape.length))

/-- The elements in their row-major order, in the shape that a pattern asks for. -/
def reshape? (specialZero : Bool) (pattern : List Int) (content : Content α) : Option (Content α) :=
  match Shape.reshape content.shape pattern specialZero with
  | .ok shape =>
    some ⟨shape, fun index => content.element (content.shape.indexAt (shape.position index))⟩
  | .error _ => none

/-- The index whose coordinate along the axis that an order names at a position is the one at that
position. -/
def gathered (order : List Int) (index : List Nat) : List Nat :=
  (List.range order.length).map fun axis => index.getD (order.idxOf (Int.ofNat axis)) 0

def transpose? (order : List Int) (content : Content α) : Option (Content α) :=
  match Shape.permute content.shape order with
  | .ok shape => some ⟨shape, fun index => content.element (gathered order index)⟩
  | .error _ => none

theorem coordinate_gathered {order : List Int} {index : List Nat} {position : Nat} {axis : Int}
    (permutes : Shape.IsPermutation order index.length) (here : order[position]? = some axis) :
    (gathered order index)[axis.toNat]? = index[position]? := by
  obtain ⟨length, distinct, inside⟩ := permutes
  obtain ⟨below, same⟩ := List.getElem?_eq_some_iff.1 here
  obtain ⟨valid, low⟩ := inside axis (List.mem_of_getElem? here)
  have known : Int.ofNat axis.toNat = axis := Int.toNat_of_nonneg valid
  have place : order.idxOf axis = position := by
    rw [← same]
    exact distinct.idxOf_getElem position below
  have short : axis.toNat < order.length := by omega
  have there : position < index.length := by omega
  rw [gathered, List.getElem?_map, List.getElem?_range short, Option.map_some, known, place,
    List.getD_eq_getElem?_getD, List.getElem?_eq_getElem there, Option.getD_some]

theorem reshape?_of_ok {specialZero : Bool} {pattern : List Int} {content : Content α} {shape : Shape}
    (reshaped : Shape.reshape content.shape pattern specialZero = .ok shape) :
    content.reshape? specialZero pattern =
      some ⟨shape, fun index => content.element (content.shape.indexAt (shape.position index))⟩ := by
  rw [reshape?, reshaped]

theorem transpose?_of_ok {order : List Int} {content : Content α} {shape : Shape}
    (permuted : Shape.permute content.shape order = .ok shape) :
    content.transpose? order = some ⟨shape, fun index => content.element (gathered order index)⟩ := by
  rw [transpose?, permuted]

/-- A reshape leaves each element at its row-major position. -/
theorem element_reshape? {specialZero : Bool} {pattern : List Int} {content result : Content α}
    (moved : content.reshape? specialZero pattern = some result) {place : Nat}
    (below : place < content.shape.prod) :
    result.element (result.shape.indexAt place) = content.element (content.shape.indexAt place) := by
  rw [reshape?] at moved
  cases reshaped : Shape.reshape content.shape pattern specialZero with
  | error error =>
    rw [reshaped] at moved
    cases moved
  | ok shape =>
    rw [reshaped] at moved
    cases moved
    have inside : place < shape.prod := by rwa [Shape.prod_of_reshape reshaped]
    dsimp only
    rw [Shape.position_indexAt inside]

/-- A reshape that only puts ones in front. -/
theorem reshape?_padLeft {rank : Nat} {specialZero : Bool} {pattern : List Int} {content : Content α}
    (reshaped : Shape.reshape content.shape pattern specialZero =
      .ok (Shape.padLeft rank content.shape)) :
    ∃ result, content.reshape? specialZero pattern = some result ∧
      result.Agrees (content.padLeft rank) := by
  refine ⟨_, reshape?_of_ok reshaped, rfl, ?_⟩
  intro index within
  obtain ⟨place, inside⟩ := Shape.position_padLeft within
  dsimp only [padLeft]
  rw [place, Shape.indexAt_position inside]

end Content

/-! ## Nodes -/

/-- The operations that only move elements, by the integers of their second input. -/
def Op.rearrange? {α : Type} (op : Op) (integers : List Int) (content : Content α) :
    Option (Content α) :=
  match op with
  | .transpose => content.transpose? integers
  | .reshape specialZero => content.reshape? specialZero integers
  | _ => none

namespace Graph

variable {α : Type} {fed : NodeId → List Nat → α}

/-- What a node holds, the parameters being fed. -/
inductive Carries (graph : Graph) (fed : NodeId → List Nat → α) : NodeId → Content α → Prop
  | parameter {id : NodeId} {node : Node} (found : graph.node? id = some node)
      (op : node.op = .parameter) : Carries graph fed id ⟨node.shape, fed id⟩
  | rearranged {id data constant : NodeId} {node : Node} {integers : List Int}
      {content result : Content α} (found : graph.node? id = some node)
      (inputs : node.inputs = [data, constant]) (read : graph.integers? constant = some integers)
      (carries : Carries graph fed data content)
      (moved : node.op.rearrange? integers content = some result) : Carries graph fed id result

/-- A node holds no two contents. -/
theorem Carries.unique {graph : Graph} {id : NodeId} {content content' : Content α}
    (carries : graph.Carries fed id content) (carries' : graph.Carries fed id content') :
    content = content' := by
  induction carries generalizing content' with
  | parameter found op =>
    cases carries' with
    | parameter found' op' =>
      cases found.symm.trans found'
      rfl
    | rearranged found' _ _ _ moved =>
      cases found.symm.trans found'
      rw [op] at moved
      cases moved
  | rearranged found inputs read _ moved ih =>
    cases carries' with
    | parameter found' op =>
      cases found.symm.trans found'
      rw [op] at moved
      cases moved
    | rearranged found' inputs' read' carries' moved' =>
      cases found.symm.trans found'
      cases inputs.symm.trans inputs'
      cases read.symm.trans read'
      cases ih carries'
      exact Option.some.inj (moved.symm.trans moved')

/-- A node goes on holding what it holds. -/
theorem Carries.mono {before after : Graph} (grown : before.Extends after) {id : NodeId}
    {content : Content α} (carries : before.Carries fed id content) : after.Carries fed id content := by
  induction carries with
  | parameter found op => exact .parameter (grown.node? found) op
  | rearranged found inputs read _ moved ih =>
    exact .rearranged (grown.node? found) inputs (grown.integers? read) ih moved

end Graph

end PartitionLowering
