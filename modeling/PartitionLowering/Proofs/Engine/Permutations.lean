import PartitionLowering.Proofs.Engine.Extents

/-!
Orders of axes as permutations.  An order moves any list (`Shape.rearrange`); one order and then another move
it as their composition does (`Shape.rearrange_rearrange`), and an order and its inverse leave it where it was.
Main statement: `Shape.permute_exactly`, by which shapes are permuted by the permutations of their axes and
by nothing else, and are counted as before.
-/

set_option autoImplicit false

namespace PartitionLowering.Shape

abbrev axes (rank : Nat) : List Int :=
  (List.range rank).map Int.ofNat

/-- The order that moves as `first` and then `second`: at each position the axis that `first` has where
`second` says. -/
def composed (first second : List Int) : List Int :=
  rearrange second 0 first

/-- The order that moves back: at each axis the position where `order` has it. -/
def inverse (order : List Int) : List Int :=
  (List.range order.length).map fun axis => Int.ofNat (order.idxOf (Int.ofNat axis))

/-! ## Moving a list -/

section Lists

variable {α : Type} {order first second : List Int} {list : List α} {default : α}

theorem length_rearrange (order : List Int) (default : α) (list : List α) :
    (rearrange order default list).length = order.length :=
  List.length_map _

theorem getElem?_rearrange (permutes : IsPermutation order list.length) {position : Nat} {axis : Int}
    (here : order[position]? = some axis) :
    (rearrange order default list)[position]? = list[axis.toNat]? := by
  obtain ⟨valid, low⟩ := permutes.2.2 axis (List.mem_of_getElem? here)
  have below : axis.toNat < list.length := by omega
  rw [rearrange, List.getElem?_map, here, Option.map_some]
  simp [below]

theorem rearrange_axes (default : α) (list : List α) :
    rearrange (axes list.length) default list = list := by
  rw [rearrange, axes, List.map_map]
  exact map_getD_range list default

/-- Where an order moves another order, it moves what that one moves. -/
theorem rearrange_rearrange {rank : Nat} (permutes : IsPermutation first rank)
    (permutes' : IsPermutation second rank) (default : α) (list : List α) :
    rearrange second default (rearrange first default list) =
      rearrange (composed first second) default list := by
  rw [composed, rearrange, rearrange, rearrange, rearrange, List.map_map]
  refine List.map_congr_left fun axis member => ?_
  obtain ⟨valid, low⟩ := permutes'.2.2 axis member
  have length := permutes.1
  have below : axis.toNat < first.length := by omega
  simp [below]

end Lists

/-! ## Orders -/

section Orders

variable {order first second : List Int} {rank : Nat}

theorem isPermutation_composed (permutes : IsPermutation first rank)
    (permutes' : IsPermutation second rank) : IsPermutation (composed first second) rank := by
  have moved : (composed first second).Perm first := perm_rearrange 0 (permutes.1.symm ▸ permutes')
  exact isPermutation_iff_perm.2 (moved.trans (isPermutation_iff_perm.1 permutes))

theorem mem_of_lt (permutes : IsPermutation order rank) {axis : Nat} (below : axis < rank) :
    Int.ofNat axis ∈ order := by
  refine (isPermutation_iff_perm.1 permutes).mem_iff.2 ?_
  exact List.mem_map_of_mem (List.mem_range.2 below)

theorem isPermutation_inverse (permutes : IsPermutation order rank) :
    IsPermutation (inverse order) rank := by
  have length := permutes.1
  refine ⟨by simp [inverse, length], ?_, ?_⟩
  · refine List.nodup_range.map_on fun axis member other member' same => ?_
    rw [length, List.mem_range] at member member'
    have place : order.idxOf (Int.ofNat axis) = order.idxOf (Int.ofNat other) := Int.ofNat.inj same
    exact Int.ofNat.inj ((List.idxOf_inj (mem_of_lt permutes member)).1 place)
  · intro entry member
    obtain ⟨axis, below, rfl⟩ := List.mem_map.1 member
    rw [length, List.mem_range] at below
    have place := List.idxOf_lt_length_iff.2 (mem_of_lt permutes below)
    rw [length] at place
    exact ⟨Int.natCast_nonneg _, Int.ofNat_lt.2 place⟩

/-- Each axis comes back from where the order has it. -/
theorem composed_inverse (permutes : IsPermutation order rank) :
    composed order (inverse order) = axes rank := by
  rw [composed, rearrange, inverse, axes, List.map_map, permutes.1]
  refine List.map_congr_left fun axis member => ?_
  have inside := mem_of_lt permutes (List.mem_range.1 member)
  have place : (Int.ofNat (order.idxOf (Int.ofNat axis))).toNat = order.idxOf (Int.ofNat axis) := rfl
  rw [Function.comp_apply, place, List.getD_eq_getElem?_getD, List.getElem?_idxOf inside,
    Option.getD_some]

theorem composed_axes (permutes : IsPermutation order rank) : composed order (axes rank) = order := by
  rw [← permutes.1]
  exact rearrange_axes 0 order

theorem axes_composed (permutes : IsPermutation order rank) : composed (axes rank) order = order := by
  rw [composed, rearrange]
  refine (List.map_congr_left fun axis member => ?_).trans (List.map_id order)
  obtain ⟨valid, low⟩ := permutes.2.2 axis member
  have below : axis.toNat < rank := by omega
  have known : Int.ofNat axis.toNat = axis := Int.toNat_of_nonneg valid
  rw [axes, List.getD_eq_getElem?_getD, List.getElem?_map, List.getElem?_range below, Option.map_some,
    known, Option.getD_some, id]

/-- An order brings back what its inverse has moved: the inverse of the inverse is the order again. -/
theorem inverse_composed (permutes : IsPermutation order rank) :
    composed (inverse order) order = axes rank := by
  have back := isPermutation_inverse permutes
  have again := isPermutation_inverse back
  have same : order = inverse (inverse order) := by
    calc order
        = composed order (composed (inverse order) (inverse (inverse order))) := by
          rw [composed_inverse back, composed_axes permutes]
      _ = composed (composed order (inverse order)) (inverse (inverse order)) :=
          (rearrange_rearrange back again 0 order).symm
      _ = inverse (inverse order) := by
          rw [composed_inverse permutes, axes_composed again]
  calc composed (inverse order) order
      = composed (inverse order) (inverse (inverse order)) := by rw [← same]
    _ = axes rank := composed_inverse back

end Orders

/-! ## Shapes -/

variable {shape : Shape} {order first second : List Int}

theorem permute_eq_ok {result : Shape} :
    permute shape order = .ok result ↔
      IsPermutation order shape.length ∧ rearrange order 0 shape = result := by
  rw [permute]
  by_cases permutes : IsPermutation order shape.length
  · rw [if_pos permutes, Except.ok.injEq]
    exact (and_iff_right permutes).symm
  · simp [permutes]

theorem permute_bind (permutes : IsPermutation first shape.length)
    (permutes' : IsPermutation second shape.length) :
    (permute shape first >>= fun between => permute between second) =
      .ok (rearrange (composed first second) 0 shape) := by
  have length : (rearrange first 0 shape).length = shape.length := by
    rw [length_rearrange, permutes.1]
  have later : IsPermutation second (rearrange first 0 shape).length := by rwa [length]
  rw [permute_of_isPermutation permutes, ok_bind, permute_of_isPermutation later,
    rearrange_rearrange permutes permutes']

/-- A shape is permuted exactly by the permutations of its axes, and then has at each position the extent of
the axis that the order names there.  Two permutations in a row are the one by the composed order, an order and
its inverse give the shape back, and positive extents are counted as before, if they can be. -/
theorem permute_exactly (shape : Shape) :
    (∀ order, (∃ result, permute shape order = .ok result) ↔ order.Perm (axes shape.length)) ∧
    (∀ order result, permute shape order = .ok result → result.length = shape.length ∧
      ∀ (position : Nat) (axis : Int), order[position]? = some axis →
        result[position]? = shape[axis.toNat]?) ∧
    (∀ first second, first.Perm (axes shape.length) → second.Perm (axes shape.length) →
      (∀ (position : Nat) (axis : Int), second[position]? = some axis →
        (composed first second)[position]? = first[axis.toNat]?) ∧
      ∃ result, permute shape (composed first second) = .ok result ∧
        (permute shape first >>= fun between => permute between second) = .ok result) ∧
    (∀ order, order.Perm (axes shape.length) →
      composed order (inverse order) = axes shape.length ∧
      composed (inverse order) order = axes shape.length ∧
      (permute shape order >>= fun between => permute between (inverse order)) = .ok shape) ∧
    (shape.Positive → ∀ order result, permute shape order = .ok result →
      elementCount? result = elementCount? shape) := by
  simp only [← isPermutation_iff_perm]
  refine ⟨?_, ?_, ?_, ?_, ?_⟩
  · intro order
    simp [permute_eq_ok]
  · intro order result permuted
    obtain ⟨permutes, rfl⟩ := permute_eq_ok.1 permuted
    exact ⟨by rw [length_rearrange, permutes.1], fun _ _ here => getElem?_rearrange permutes here⟩
  · intro first second permutes permutes'
    have inside : IsPermutation second first.length := by rwa [permutes.1]
    exact ⟨fun _ _ here => getElem?_rearrange inside here, _,
      permute_of_isPermutation (isPermutation_composed permutes permutes'),
      permute_bind permutes permutes'⟩
  · intro order permutes
    refine ⟨composed_inverse permutes, inverse_composed permutes, ?_⟩
    rw [permute_bind permutes (isPermutation_inverse permutes), composed_inverse permutes, rearrange_axes]
  · intro positive order result permuted
    exact elementCount?_congr positive (perm_of_permute permuted).prod_eq

/-- A host image brought into the engine's layout and back. -/
theorem permute_exactly_image :
    [0, 3, 1, 2].Perm (axes [2, 3, 4, 5].length) ∧ Positive [2, 3, 4, 5] ∧
      ∃ result, permute [2, 3, 4, 5] [0, 3, 1, 2] = .ok result ∧ result[1]? = some 5 ∧
        elementCount? result = elementCount? [2, 3, 4, 5] ∧
        (permute [2, 3, 4, 5] [0, 3, 1, 2] >>= fun between =>
          permute between (inverse [0, 3, 1, 2])) = .ok [2, 3, 4, 5] := by
  obtain ⟨exactly, moves, _, back, counts⟩ := permute_exactly [2, 3, 4, 5]
  have perm : [0, 3, 1, 2].Perm (axes [2, 3, 4, 5].length) := by decide
  have positive : Positive [2, 3, 4, 5] := by simp [Positive]
  obtain ⟨result, permuted⟩ := (exactly [0, 3, 1, 2]).2 perm
  exact ⟨perm, positive, result, permuted, (moves _ _ permuted).2 1 3 rfl, counts positive _ _ permuted,
    (back _ perm).2.2⟩

/-- The order back to the host is the inverse of the one to the engine. -/
example : inverse [0, 3, 1, 2] = [0, 2, 3, 1] := by
  decide

end PartitionLowering.Shape
