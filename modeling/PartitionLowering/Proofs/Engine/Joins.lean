import Mathlib.Algebra.GroupWithZero.Nat
import Mathlib.Data.List.Perm.Basic
import PartitionLowering.Proofs.Engine.Arena
import PartitionLowering.Proofs.Engine.Axes

/-!
Joins of nodes along an axis.  The parts of a join have one frame, which is all of their type but the extent on
that axis, and the join has that frame with the sum of their extents (`Inference.concat_eq_ok`).  No part
is set apart from the others in this, though inference measures all of them against the first one.  So
the parts may change places (`Joined.perm`), and joins of them may be joined in their stead
(`joined_append_iff`).  Main statement: `Graph.concat_regroups`.
-/

set_option autoImplicit false

namespace PartitionLowering

/-! ## Shapes along an axis -/

namespace Shape

def HasAxis (entry : Int) (shape : Shape) : Prop :=
  -shape.length ≤ entry ∧ entry < shape.length

def along (entry : Int) (shape : Shape) : Nat :=
  shape.getD (countedAxis entry shape.length) 0

/-- A shape with another extent on the axis that an entry counts to. -/
def withAlong (entry : Int) (extent : Nat) (shape : Shape) : Shape :=
  shape.set (countedAxis entry shape.length) extent

variable {entry : Int} {shape shape' : Shape} {extent : Nat}

theorem countedAxis_lt (inside : HasAxis entry shape) :
    countedAxis entry shape.length < shape.length := by
  obtain ⟨low, high⟩ := inside
  rw [countedAxis]
  split <;> omega

@[simp] theorem length_withAlong : (withAlong entry extent shape).length = shape.length := by
  simp [withAlong]

@[simp] theorem hasAxis_withAlong : HasAxis entry (withAlong entry extent shape) ↔ HasAxis entry shape := by
  simp [HasAxis]

theorem along_withAlong (inside : HasAxis entry shape) :
    along entry (withAlong entry extent shape) = extent := by
  have below := countedAxis_lt inside
  simp [along, withAlong, below]

@[simp] theorem withAlong_withAlong {extent' : Nat} :
    withAlong entry extent (withAlong entry extent' shape) = withAlong entry extent shape := by
  simp [withAlong]

theorem withAlong_along (inside : HasAxis entry shape) :
    withAlong entry (along entry shape) shape = shape := by
  have below := countedAxis_lt inside
  simp [along, withAlong, below]

/-- Shapes with one frame differ in the extent on the axis at most. -/
theorem eq_withAlong (inside : HasAxis entry shape)
    (frame : withAlong entry 0 shape = withAlong entry 0 shape') :
    shape = withAlong entry (along entry shape) shape' := by
  calc shape
      = withAlong entry (along entry shape) shape := (withAlong_along inside).symm
    _ = withAlong entry (along entry shape) (withAlong entry 0 shape) := withAlong_withAlong.symm
    _ = withAlong entry (along entry shape) (withAlong entry 0 shape') := by rw [frame]
    _ = withAlong entry (along entry shape) shape' := withAlong_withAlong

theorem modify_eq_withAlong (inside : HasAxis entry shape) :
    shape.modify (countedAxis entry shape.length) (· + extent) =
      withAlong entry (along entry shape + extent) shape := by
  have below := countedAxis_lt inside
  rw [List.modify_eq_set_get _ below]
  simp [along, withAlong, below]

theorem resolveAxis_eq_ok {position : Nat} :
    resolveAxis entry shape.length = .ok position ↔
      HasAxis entry shape ∧ position = countedAxis entry shape.length := by
  rw [resolveAxis_eq, HasAxis]
  by_cases inside : -(shape.length : Int) ≤ entry ∧ entry < shape.length
  · rw [if_pos inside, Except.ok.injEq, eq_comm]
    exact (and_iff_right inside).symm
  · simp [inside]

end Shape

/-! ## Joins -/

namespace Inference

/-- All of a type but the extent on an axis. -/
def frame (axis : Int) (type : OutputType) : OutputType :=
  (Shape.withAlong axis 0 type.1, type.2)

def extents (axis : Int) (parts : List OutputType) : Nat :=
  (parts.map fun part => Shape.along axis part.1).sum

/-- Types of parts that are joined along an axis, and the type of the whole. -/
structure Joined (axis : Int) (parts : List OutputType) (whole : OutputType) : Prop where
  some_part : parts ≠ []
  inside : Shape.HasAxis axis whole.1
  alike : ∀ part ∈ parts, frame axis part = frame axis whole
  extent : Shape.along axis whole.1 = extents axis parts

section Joins

variable {axis : Int} {parts parts' : List OutputType} {part first whole : OutputType} {rest : List OutputType}

theorem length_of_frame (alike : frame axis part = frame axis whole) : part.1.length = whole.1.length := by
  have shapes := congrArg (fun type => type.1.length) alike
  simpa [frame] using shapes

theorem hasAxis_of_frame (alike : frame axis part = frame axis whole) :
    Shape.HasAxis axis part.1 ↔ Shape.HasAxis axis whole.1 := by
  rw [Shape.HasAxis, Shape.HasAxis, length_of_frame alike]

@[simp] theorem frame_withAlong {extent : Nat} :
    frame axis (Shape.withAlong axis extent part.1, part.2) = frame axis part := by
  simp [frame]

/-- Types with one frame differ in the extent on the axis at most. -/
theorem eq_of_frame (inside : Shape.HasAxis axis whole.1) (alike : frame axis part = frame axis whole) :
    whole = (Shape.withAlong axis (Shape.along axis whole.1) part.1, part.2) := by
  obtain ⟨shapes, types⟩ := Prod.ext_iff.1 alike
  exact Prod.ext (Shape.eq_withAlong inside shapes.symm) types.symm

/-- A join as inference goes about it: by the first part. -/
theorem joined_cons_iff :
    Joined axis (first :: rest) whole ↔
      Shape.HasAxis axis first.1 ∧ (∀ part ∈ rest, frame axis part = frame axis first) ∧
        whole = (Shape.withAlong axis (extents axis (first :: rest)) first.1, first.2) := by
  constructor
  · intro joined
    have head := joined.alike first List.mem_cons_self
    refine ⟨(hasAxis_of_frame head).2 joined.inside, ?_, ?_⟩
    · intro part member
      rw [joined.alike part (List.mem_cons_of_mem first member), head]
    · rw [← joined.extent]
      exact eq_of_frame joined.inside head
  · rintro ⟨inside, alike, rfl⟩
    refine ⟨List.cons_ne_nil first rest, ?_, ?_, Shape.along_withAlong inside⟩
    · exact Shape.hasAxis_withAlong.2 inside
    · simpa using alike

end Joins

theorem joinParts_eq_ok {op : String} {position : Nat} {first : Node} {rest : List Node}
    {shape result : Shape} :
    joinParts op position first rest shape = .ok result ↔
      (∀ part ∈ rest, part.elementType = first.elementType ∧
          part.shape.set position 0 = first.shape.set position 0) ∧
        result = shape.modify position (· + (rest.map fun part => part.shape.getD position 0).sum) := by
  induction rest generalizing shape with
  | nil =>
    have kept : shape.modify position (fun extent => extent) = shape := List.modify_id position shape
    simp [joinParts, kept, eq_comm]
  | cons part rest ih =>
    have longer : (shape.modify position (· + part.shape.getD position 0)).modify position
          (· + (rest.map fun part => part.shape.getD position 0).sum) =
        shape.modify position
          (· + ((part :: rest).map fun part => part.shape.getD position 0).sum) := by
      rw [List.modify_modify_eq]
      congr 1
      funext extent
      simp [Nat.add_assoc]
    rw [joinParts, guard_eq_ok, guard_eq_ok, ih, longer, List.forall_mem_cons, not_not, not_not]
    simp only [and_assoc]

theorem frame_eq_iff {part first : Node} {axis : Int} :
    frame axis part.outputType = frame axis first.outputType ↔
      part.elementType = first.elementType ∧
        part.shape.set (Shape.countedAxis axis first.shape.length) 0 =
          first.shape.set (Shape.countedAxis axis first.shape.length) 0 := by
  constructor
  · intro alike
    have rank : part.shape.length = first.shape.length := length_of_frame alike
    obtain ⟨shapes, types⟩ := Prod.ext_iff.1 alike
    exact ⟨types, by simpa [frame, Node.outputType, Shape.withAlong, rank] using shapes⟩
  · rintro ⟨types, shapes⟩
    have rank : part.shape.length = first.shape.length := by
      simpa using congrArg List.length shapes
    simp [frame, Node.outputType, Shape.withAlong, rank, types, shapes]

/-- Parts that all have the frame of the first one are joined to it. -/
theorem joinParts_first_eq_ok {op : String} {axis : Int} {first : Node} {rest : List Node} {result : Shape}
    (inside : Shape.HasAxis axis first.shape) :
    joinParts op (Shape.countedAxis axis first.shape.length) first rest first.shape = .ok result ↔
      (∀ part ∈ rest, frame axis part.outputType = frame axis first.outputType) ∧
        result = Shape.withAlong axis (extents axis ((first :: rest).map Node.outputType)) first.shape := by
  rw [joinParts_eq_ok, Shape.modify_eq_withAlong inside]
  simp only [frame_eq_iff]
  refine and_congr_right fun alike => ?_
  have read : ∀ part ∈ rest, part.shape.getD (Shape.countedAxis axis first.shape.length) 0 =
      Shape.along axis part.outputType.1 := by
    intro part member
    have rank : part.shape.length = first.shape.length := length_of_frame (frame_eq_iff.2 (alike part member))
    simp [Shape.along, Node.outputType, rank]
  rw [List.map_congr_left read]
  simp [extents, Node.outputType, Function.comp_def]

/-- A join is added exactly where all parts have one frame. -/
theorem concat_eq_ok {op : String} {axis : Int} {nodes : List Node} {whole : OutputType} :
    concat op axis nodes = .ok whole ↔ Joined axis (nodes.map Node.outputType) whole := by
  cases nodes with
  | nil =>
    constructor
    · intro joined
      cases joined
    · intro joined
      exact absurd rfl joined.some_part
  | cons first rest =>
    rw [concat, Node.rank, bind_eq_ok, List.map_cons, joined_cons_iff]
    simp only [Shape.resolveAxis_eq_ok, bind_eq_ok, pure_eq_ok, Except.ok.injEq, List.forall_mem_map]
    constructor
    · rintro ⟨_, ⟨inside, rfl⟩, shape, joined, rfl⟩
      obtain ⟨alike, rfl⟩ := (joinParts_first_eq_ok inside).1 joined
      exact ⟨inside, alike, rfl⟩
    · rintro ⟨inside, alike, rfl⟩
      exact ⟨_, ⟨inside, rfl⟩, _, (joinParts_first_eq_ok inside).2 ⟨alike, rfl⟩, rfl⟩

/-! ## Order and grouping -/

section Regrouping

variable {axis : Int} {parts parts' : List OutputType} {whole : OutputType}

theorem Joined.perm (joined : Joined axis parts whole) (perm : parts.Perm parts') :
    Joined axis parts' whole where
  some_part none := joined.some_part (perm.trans (.of_eq none)).eq_nil
  inside := joined.inside
  alike part member := joined.alike part (perm.mem_iff.2 member)
  extent := joined.extent.trans (perm.map _).sum_nat

/-- The parts of a join, joined among themselves. -/
theorem Joined.of_subset (joined : Joined axis parts whole) (some_part : parts' ≠ [])
    (subset : ∀ part ∈ parts', part ∈ parts) :
    Joined axis parts' (Shape.withAlong axis (extents axis parts') whole.1, whole.2) where
  some_part := some_part
  inside := Shape.hasAxis_withAlong.2 joined.inside
  alike part member := by
    rw [frame_withAlong]
    exact joined.alike part (subset part member)
  extent := Shape.along_withAlong joined.inside

theorem joined_append_iff (some_part : parts ≠ []) (some_part' : parts' ≠ []) :
    Joined axis (parts ++ parts') whole ↔
      ∃ left right, Joined axis parts left ∧ Joined axis parts' right ∧
        Joined axis [left, right] whole := by
  constructor
  · intro joined
    refine ⟨_, _, joined.of_subset some_part (by simp +contextual),
      joined.of_subset some_part' (by simp +contextual), by simp, joined.inside, by simp, ?_⟩
    have sum : extents axis (parts ++ parts') = extents axis parts + extents axis parts' := by
      simp [extents]
    rw [joined.extent, sum]
    simp [extents, Shape.along_withAlong joined.inside]
  · rintro ⟨left, right, joined, joined', both⟩
    have head := both.alike left (by simp)
    have last := both.alike right (by simp)
    refine ⟨by simp [some_part], both.inside, ?_, ?_⟩
    · intro part member
      rcases List.mem_append.1 member with member | member
      · rw [joined.alike part member, head]
      · rw [joined'.alike part member, last]
    · calc Shape.along axis whole.1
          = Shape.along axis left.1 + Shape.along axis right.1 := by
            simpa [extents] using both.extent
        _ = extents axis parts + extents axis parts' := by rw [joined.extent, joined'.extent]
        _ = extents axis (parts ++ parts') := by simp [extents]

end Regrouping

end Inference

namespace Graph

/-- A join of nodes is added along an axis, and has the type. -/
def Concatenates (graph : Graph) (axis : Int) (ids : List NodeId) (type : OutputType) : Prop :=
  ∃ whole after, graph.addOp (.concat axis) ids = .ok (whole, after) ∧ whole.outputType = type

section Joins

variable {graph longer : Graph} {axis : Int} {ids ids' : List NodeId} {type : OutputType}

theorem concatenates_iff_infer :
    graph.Concatenates axis ids type ↔ graph.infer (.concat axis) ids = .ok type := by
  constructor
  · rintro ⟨whole, after, added, rfl⟩
    exact (of_addOp added).1
  · intro inferred
    exact ⟨_, _, addOp_eq_ok.2 ⟨type, inferred, rfl⟩, rfl⟩

theorem concatenates_iff :
    graph.Concatenates axis ids type ↔
      ∃ nodes, graph.Denote ids nodes ∧ Inference.Joined axis (nodes.map Node.outputType) type := by
  rw [concatenates_iff_infer, infer_eq_ok]
  simp only [Op.infer, Inference.concat_eq_ok]

theorem exists_denote (known : ∀ id ∈ ids, graph.contains id = true) : ∃ nodes, graph.Denote ids nodes := by
  induction ids with
  | nil => exact ⟨[], .nil⟩
  | cons id rest ih =>
    obtain ⟨there, others⟩ := List.forall_mem_cons.1 known
    obtain ⟨node, found⟩ := exists_node?_of_lt_size (of_decide_eq_true there)
    obtain ⟨nodes, denoted⟩ := ih others
    exact ⟨node :: nodes, .cons found denoted⟩

theorem types_ne_nil {nodes : List Node} (denoted : graph.Denote ids nodes) (some_id : ids ≠ []) :
    nodes.map Node.outputType ≠ [] := by
  cases denoted with
  | nil => exact absurd rfl some_id
  | cons _ _ => simp

theorem concatenates_iff_of_denote {nodes : List Node} (denoted : graph.Denote ids nodes) :
    graph.Concatenates axis ids type ↔ Inference.Joined axis (nodes.map Node.outputType) type := by
  rw [concatenates_iff_infer, infer_of_resolve (resolve_eq_ok.2 denoted), Op.infer, Inference.concat_eq_ok]

/-- Two joins and the join of them are added where types of the two can be joined. -/
theorem concatenates_twice_iff {nodes nodes' : List Node} (denoted : graph.Denote ids nodes)
    (denoted' : graph.Denote ids' nodes') :
    (∃ left between right later, graph.addOp (.concat axis) ids = .ok (left, between) ∧
        between.addOp (.concat axis) ids' = .ok (right, later) ∧
        later.Concatenates axis [left.id, right.id] type) ↔
      ∃ left right, Inference.Joined axis (nodes.map Node.outputType) left ∧
        Inference.Joined axis (nodes'.map Node.outputType) right ∧
        Inference.Joined axis [left, right] type := by
  constructor
  · rintro ⟨left, between, right, later, added, added', both⟩
    obtain ⟨_, grown, held⟩ := of_addOp added
    obtain ⟨_, grown', held'⟩ := of_addOp added'
    have pair : later.Denote [left.id, right.id] [left, right] :=
      .cons (grown'.node? held) (.cons held' .nil)
    exact ⟨_, _, (concatenates_iff_of_denote denoted).1 ⟨left, between, added, rfl⟩,
      (concatenates_iff_of_denote (grown.denote denoted')).1 ⟨right, later, added', rfl⟩,
      (concatenates_iff_of_denote pair).1 both⟩
  · rintro ⟨_, _, joined, joined', both⟩
    obtain ⟨left, between, added, rfl⟩ := (concatenates_iff_of_denote denoted).2 joined
    obtain ⟨_, grown, held⟩ := of_addOp added
    obtain ⟨right, later, added', rfl⟩ := (concatenates_iff_of_denote (grown.denote denoted')).2 joined'
    obtain ⟨_, grown', held'⟩ := of_addOp added'
    have pair : later.Denote [left.id, right.id] [left, right] :=
      .cons (grown'.node? held) (.cons held' .nil)
    exact ⟨left, between, right, later, added, added', (concatenates_iff_of_denote pair).2 both⟩

theorem Concatenates.perm (joined : graph.Concatenates axis ids type) (perm : ids.Perm ids') :
    graph.Concatenates axis ids' type := by
  obtain ⟨nodes, denoted, joined⟩ := concatenates_iff.1 joined
  obtain ⟨nodes', denoted', perm'⟩ := List.perm_comp_forall₂ perm.symm denoted
  exact concatenates_iff.2 ⟨nodes', denoted', joined.perm (perm'.symm.map _)⟩

end Joins

/-- Two joins can be joined exactly where their parts can be joined at once, and in whatever order parts are
joined, the type is the same. -/
theorem concat_regroups (graph : Graph) (axis : Int) :
    (∀ ids ids', ids ≠ [] → ids' ≠ [] → (∀ id ∈ ids ++ ids', graph.contains id = true) → ∀ type,
      (∃ left between right later, graph.addOp (.concat axis) ids = .ok (left, between) ∧
          between.addOp (.concat axis) ids' = .ok (right, later) ∧
          later.Concatenates axis [left.id, right.id] type) ↔
        graph.Concatenates axis (ids ++ ids') type) ∧
    ∀ ids ids', ids.Perm ids' → ∀ type,
      graph.Concatenates axis ids type ↔ graph.Concatenates axis ids' type := by
  have reorders : ∀ ids ids' : List NodeId, ids.Perm ids' → ∀ type,
      graph.Concatenates axis ids type ↔ graph.Concatenates axis ids' type :=
    fun _ _ perm _ => ⟨fun joined => joined.perm perm, fun joined => joined.perm perm.symm⟩
  refine ⟨?_, reorders⟩
  intro ids ids' some_id some_id' known type
  obtain ⟨nodes, denoted⟩ := exists_denote fun id member => known id (List.mem_append_left _ member)
  obtain ⟨nodes', denoted'⟩ := exists_denote fun id member => known id (List.mem_append_right _ member)
  have all : graph.Denote (ids ++ ids') (nodes ++ nodes') := List.rel_append denoted denoted'
  rw [concatenates_twice_iff denoted denoted', concatenates_iff_of_denote all, List.map_append,
    Inference.joined_append_iff (types_ne_nil denoted some_id) (types_ne_nil denoted' some_id')]

/-- Parts of two and of three rows, and one of four. -/
def rows : Graph :=
  afterCalls [.parameter .f32 [1, 2, 5], .parameter .f32 [1, 3, 5], .parameter .f32 [1, 4, 5]]

/-- The second axis from the end has all nine rows, however they are put together. -/
theorem concat_regroups_rows :
    (∀ id ∈ [0, 1] ++ [2], rows.contains id = true) ∧
      rows.Concatenates (-2) [2, 0, 1] ([1, 9, 5], .f32) ∧
      ∃ left between right later, rows.addOp (.concat (-2)) [0, 1] = .ok (left, between) ∧
        between.addOp (.concat (-2)) [2] = .ok (right, later) ∧
        later.Concatenates (-2) [left.id, right.id] ([1, 9, 5], .f32) := by
  obtain ⟨regroups, reorders⟩ := concat_regroups rows (-2)
  have known : ∀ id ∈ [0, 1] ++ [2], rows.contains id = true := by decide
  have joined : rows.Concatenates (-2) [0, 1, 2] ([1, 9, 5], .f32) :=
    concatenates_iff_infer.2 (by decide)
  have perm : [0, 1, 2].Perm [2, 0, 1] := by decide
  exact ⟨known, (reorders _ _ perm _).1 joined,
    (regroups [0, 1] [2] (by decide) (by decide) known _).2 joined⟩

end Graph

end PartitionLowering
