import PartitionLowering.Proofs.Engine.Contents
import PartitionLowering.Proofs.Lowering.Additions
import PartitionLowering.Proofs.Lowering.Calls

/-!
Changes of layout, element by element.  Shapes alone do not tell a right order from a wrong one where
extents are equal; what the nodes hold does.  A node in the engine's layout holds each element of a host
tensor where the engine looks for it (`Layout.carries_toEngine`), and the node that is given back holds it
where the host does (`Layout.carries_toHost`).
-/

set_option autoImplicit false

namespace PartitionLowering

theorem Content.agrees_padLeft {α : Type} {rank : Nat} {content : Content α}
    (full : content.shape.length = rank) : content.Agrees (content.padLeft rank) := by
  refine ⟨(Shape.padLeft_of_length full).symm, fun index _ => ?_⟩
  have none : rank - content.shape.length = 0 := by omega
  dsimp only [Content.padLeft]
  rw [none, List.drop_zero]

/-- An index of an image. -/
theorem Shape.within_image {batch height width channels : Nat} {index : List Nat} :
    Within [batch, height, width, channels] index ↔
      ∃ n h w c, index = [n, h, w, c] ∧ (n < batch ∧ h < height ∧ w < width) ∧ c < channels := by
  constructor
  · rintro (_ | ⟨first, _ | ⟨second, _ | ⟨third, _ | ⟨fourth, rest⟩⟩⟩⟩)
    cases rest
    exact ⟨_, _, _, _, rfl, ⟨first, second, third⟩, fourth⟩
  · rintro ⟨n, h, w, c, rfl, ⟨first, second, third⟩, fourth⟩
    exact .cons first (.cons second (.cons third (.cons fourth .nil)))

namespace Layout

section Elements

variable {α : Type} {fed : NodeId → List Nat → α} {draft : Draft} {id : NodeId} {source : Content α}
  {batch height width channels : Nat} {elementType : ElementType}

theorem gathered_toEngine (n c h w : Nat) :
    Content.gathered [0, 3, 1, 2] [n, c, h, w] = [n, h, w, c] :=
  rfl

theorem gathered_toHost (n h w c : Nat) :
    Content.gathered [0, 2, 3, 1] [n, h, w, c] = [n, c, h, w] :=
  rfl

theorem carries_toEngine {dims : List Int32} (carries : draft.graph.Carries fed id source)
    (typed : draft.graph.Typed id (source.shape, elementType))
    (shaped : Layout.shape dims = .ok source.shape) (given : dims ≠ []) (low : dims.length ≤ 4)
    (room : Shape.elementCount? source.shape ≠ none)
    (padded : Shape.padLeft 4 source.shape = [batch, height, width, channels]) :
    ∃ image after content, toEngine dims id draft = .ok image after ∧
      after.graph.Typed image ([batch, channels, height, width], elementType) ∧
      after.graph.Carries fed image content ∧ content.shape = [batch, channels, height, width] ∧
      ∀ n < batch, ∀ c < channels, ∀ h < height, ∀ w < width,
        content.element [n, c, h, w] = (source.padLeft 4).element [n, h, w, c] := by
  obtain ⟨image, after, ran, grown, shown⟩ :=
    (ends_toEngine typed shaped given low (.inr room)).run_ok
  rw [engineShape, padded] at shown
  obtain ⟨_, whole, order, _, _, found, read, origin⟩ := of_toEngine ran
  -- the node that is turned holds the image with ones in front, whether or not it had to be reshaped
  have turned : ∃ held, after.graph.Carries fed whole held ∧ held.Agrees (source.padLeft 4) := by
    rcases origin with ⟨four, rfl⟩ | ⟨⟨pattern, _, _, reshaped, asked⟩, _⟩
    · have full : source.shape.length = 4 := by
        rw [(shape_eq_ok.1 shaped).2, List.length_map, four]
      exact ⟨source, carries.mono grown, Content.agrees_padLeft full⟩
    · obtain ⟨held, moved, agrees⟩ := Content.reshape?_padLeft (reshape_imageDims shaped room)
      exact ⟨held, .rearranged reshaped rfl asked (carries.mono grown) moved, agrees⟩
  obtain ⟨held, carries', shape, same⟩ := turned
  have shape : held.shape = [batch, height, width, channels] := shape.trans padded
  have permuted : Shape.permute held.shape [0, 3, 1, 2] = .ok [batch, channels, height, width] := by
    rw [shape, Shape.permute_toEngine]
  refine ⟨image, after, _, ran, shown,
    .rearranged found rfl read carries' (Content.transpose?_of_ok permuted), rfl, ?_⟩
  intro n first c fourth h second w third
  have within : (source.padLeft 4).shape.Within [n, h, w, c] := by
    rw [Content.padLeft, padded]
    exact Shape.within_image.2 ⟨n, h, w, c, rfl, ⟨first, second, third⟩, fourth⟩
  exact (congrArg held.element (gathered_toEngine n c h w)).trans (same _ within)

theorem carries_toHost
    (typed : draft.graph.Typed id ([batch, channels, height, width], elementType))
    (carries : draft.graph.Carries fed id source)
    (shape : source.shape = [batch, channels, height, width]) :
    ∃ back after content, toHost id draft = .ok back after ∧ after.graph.Carries fed back content ∧
      content.shape = [batch, height, width, channels] ∧
      ∀ n h w c, content.element [n, h, w, c] = source.element [n, c, h, w] := by
  obtain ⟨back, after, ran, grown, _⟩ := (ends_toHost typed).run_ok
  obtain ⟨_, order, _, _, found, read⟩ := of_toHost ran
  have permuted : Shape.permute source.shape [0, 2, 3, 1] = .ok [batch, height, width, channels] := by
    rw [shape, Shape.permute_toHost]
  refine ⟨back, after, _, ran,
    .rearranged found rfl read (carries.mono grown) (Content.transpose?_of_ok permuted), rfl, ?_⟩
  intro n h w c
  exact congrArg source.element (gathered_toHost n h w c)

end Elements

/-- A parameter of host dims that is brought into the engine's layout is there with each element in its
place, and, given back, has its elements in the order that they had. -/
theorem layouts_move_elements {α : Type} {fed : NodeId → List Nat → α} {draft : Draft} {id : NodeId}
    {parameter : Node} {dims : List Int32} (held : draft.graph.node? id = some parameter)
    (op : parameter.op = .parameter) (shaped : Layout.shape dims = .ok parameter.shape)
    (rank : 1 ≤ dims.length ∧ dims.length ≤ 4) (room : parameter.shape.prod < 2 ^ 64) :
    ∃ batch height width channels image between content,
      Shape.padLeft 4 parameter.shape = [batch, height, width, channels] ∧
      toEngine dims id draft = .ok image between ∧
      between.graph.Carries fed image content ∧
      content.shape = [batch, channels, height, width] ∧
      (∀ n < batch, ∀ c < channels, ∀ h < height, ∀ w < width, content.element [n, c, h, w] =
        (Content.padLeft 4 ⟨parameter.shape, fed id⟩).element [n, h, w, c]) ∧
      ∃ back after content', toHost image between = .ok back after ∧
        after.graph.Carries fed back content' ∧
        content'.shape = [batch, height, width, channels] ∧
        ∀ place < parameter.shape.prod,
          content'.element (content'.shape.indexAt place) =
            fed id (parameter.shape.indexAt place) := by
  have given : dims ≠ [] := List.length_pos_iff.1 rank.1
  have short : parameter.shape.length ≤ 4 := by
    rw [(shape_eq_ok.1 shaped).2, List.length_map]
    exact rank.2
  obtain ⟨batch, height, width, channels, padded⟩ := Shape.exists_image (Shape.length_padLeft short)
  have counted : Shape.elementCount? parameter.shape ≠ none :=
    (Size.product?_ne_none (Builder.positive_of_layout shaped)).2 room
  have fresh : draft.graph.Carries fed id ⟨parameter.shape, fed id⟩ := .parameter held op
  obtain ⟨image, between, content, ran, typed, carries, shape, places⟩ :=
    carries_toEngine fresh ⟨parameter, held, rfl⟩ shaped given rank.2 counted padded
  obtain ⟨back, after, content', ran', carries', shape', same⟩ := carries_toHost typed carries shape
  refine ⟨batch, height, width, channels, image, between, content, padded, ran, carries, shape, places,
    back, after, content', ran', carries', shape', ?_⟩
  intro place below
  have inside : place < (Shape.padLeft 4 parameter.shape).prod := by rwa [Shape.prod_padLeft]
  rw [padded] at inside
  obtain ⟨n, h, w, c, index, ⟨first, second, third⟩, fourth⟩ :=
    Shape.within_image.1 (Shape.within_indexAt inside)
  calc content'.element (content'.shape.indexAt place)
      = content'.element [n, h, w, c] := by rw [shape', index]
    _ = content.element [n, c, h, w] := same n h w c
    _ = fed id ([n, h, w, c].drop (4 - parameter.shape.length)) :=
        places n first c fourth h second w third
    _ = fed id (parameter.shape.indexAt place) := by
        rw [← index, ← padded, Shape.drop_indexAt_padLeft below]

namespace SquareExample

def draft : Draft where
  graph := Graph.afterCalls [.parameter .i8 [2, 2, 3]]

/-- Each element is its own index. -/
def fed : NodeId → List Nat → List Nat := fun _ index => index

end SquareExample

open SquareExample in
theorem layouts_move_elements_square :
    ∃ image between content, toEngine [2, 2, 3] 0 draft = .ok image between ∧
      between.graph.Carries fed image content ∧ content.shape = [1, 3, 2, 2] ∧
      content.element [0, 2, 1, 0] = [1, 0, 2] ∧
      ∃ back after content', toHost image between = .ok back after ∧
        after.graph.Carries fed back content' ∧
        content'.element (content'.shape.indexAt 7) = [1, 0, 1] := by
  have held : draft.graph.node? 0 = some ⟨0, .parameter, [], [2, 2, 3], .i8⟩ := rfl
  have shaped : Layout.shape [2, 2, 3] = .ok [2, 2, 3] := by decide
  obtain ⟨_, _, _, _, image, between, content, padded, ran, carries, shape, places, back, after,
      content', ran', carries', _, order⟩ :=
    @layouts_move_elements _ fed _ _ _ _ held rfl shaped (by decide) (by decide)
  cases padded
  exact ⟨image, between, content, ran, carries, shape,
    places 0 (by decide) 2 (by decide) 1 (by decide) 0 (by decide), back, after, content', ran', carries',
    order 7 (by decide)⟩

end Layout

end PartitionLowering
