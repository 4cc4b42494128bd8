import PartitionLowering.Engine.Shape
import PartitionLowering.Proofs.Running

/-!
Shapes of images in the two layouts.  `Shape.channelsFirst` moves the channels of an image in front of
its height and width; the permutations that a lowering emits are told on four extents, and a reshape by
a pattern of plain extents gives these extents (`reshape_of_plain`).
-/

set_option autoImplicit false

namespace PartitionLowering.Shape

def channelsFirst : Shape → Shape
  | [batch, height, width, channels] => [batch, channels, height, width]
  | shape => shape

theorem exists_image {shape : Shape} (rank : shape.length = 4) :
    ∃ batch height width channels, shape = [batch, height, width, channels] := by
  rcases shape with _ | ⟨batch, _ | ⟨height, _ | ⟨width, _ | ⟨channels, _ | ⟨_, _⟩⟩⟩⟩⟩
  all_goals simp at rank
  exact ⟨batch, height, width, channels, rfl⟩

theorem channelsFirst_of_length_ne {shape : Shape} (rank : shape.length ≠ 4) :
    channelsFirst shape = shape := by
  unfold channelsFirst
  split
  · simp at rank
  · rfl

@[simp] theorem length_channelsFirst (shape : Shape) : (channelsFirst shape).length = shape.length := by
  by_cases rank : shape.length = 4
  · obtain ⟨batch, height, width, channels, rfl⟩ := exists_image rank
    rfl
  · rw [channelsFirst_of_length_ne rank]

def channelsLast : Shape → Shape
  | [batch, channels, height, width] => [batch, height, width, channels]
  | shape => shape

theorem channelsLast_of_length_ne {shape : Shape} (rank : shape.length ≠ 4) :
    channelsLast shape = shape := by
  unfold channelsLast
  split
  · simp at rank
  · rfl

theorem channelsLast_channelsFirst (shape : Shape) : shape.channelsFirst.channelsLast = shape := by
  by_cases rank : shape.length = 4
  · obtain ⟨batch, height, width, channels, rfl⟩ := exists_image rank
    rfl
  · rw [channelsFirst_of_length_ne rank, channelsLast_of_length_ne rank]

theorem channelsFirst_channelsLast (shape : Shape) : shape.channelsLast.channelsFirst = shape := by
  by_cases rank : shape.length = 4
  · obtain ⟨batch, channels, height, width, rfl⟩ := exists_image rank
    rfl
  · rw [channelsLast_of_length_ne rank, channelsFirst_of_length_ne rank]

@[simp] theorem length_channelsLast (shape : Shape) : (channelsLast shape).length = shape.length := by
  rw [← length_channelsFirst (channelsLast shape), channelsFirst_channelsLast]

/-! ## Permutations -/

section Permutations

variable (a b c d : Nat)

theorem permute_toEngine : permute [a, b, c, d] [0, 3, 1, 2] = .ok [a, d, b, c] := by
  have valid : IsPermutation [0, 3, 1, 2] 4 := by decide
  exact if_pos valid

theorem permute_toHost : permute [a, b, c, d] [0, 2, 3, 1] = .ok [a, c, d, b] := by
  have valid : IsPermutation [0, 2, 3, 1] 4 := by decide
  exact if_pos valid

theorem permute_lastAxisFirst : permute [a, b, c, d] [3, 0, 1, 2] = .ok [d, a, b, c] := by
  have valid : IsPermutation [3, 0, 1, 2] 4 := by decide
  exact if_pos valid

theorem permute_swapOuterAxes : permute [a, b, c, d] [1, 0, 2, 3] = .ok [b, a, c, d] := by
  have valid : IsPermutation [1, 0, 2, 3] 4 := by decide
  exact if_pos valid

end Permutations

/-! ## Ones in front -/

theorem length_padLeft {rank : Nat} {shape : Shape} (fits : shape.length ≤ rank) :
    (padLeft rank shape).length = rank := by
  simp only [padLeft, List.length_append, List.length_replicate]
  omega

theorem padLeft_of_length {rank : Nat} {shape : Shape} (full : shape.length = rank) :
    padLeft rank shape = shape := by
  simp [padLeft, full]

theorem padLeft_eq_append {low high : Nat} {shape : Shape} (fits : shape.length ≤ low)
    (order : low ≤ high) :
    padLeft high shape = List.replicate (high - low) 1 ++ padLeft low shape := by
  have split : high - shape.length = (high - low) + (low - shape.length) := by omega
  rw [padLeft, padLeft, split, ← List.replicate_append_replicate, List.append_assoc]

theorem elementCount?_one_cons (shape : Shape) : elementCount? (1 :: shape) = elementCount? shape := by
  have step : Size.mul? 1 1 = some 1 := by decide
  simp [elementCount?, Size.product?, step]

theorem elementCount?_padLeft (rank : Nat) (shape : Shape) :
    elementCount? (padLeft rank shape) = elementCount? shape := by
  rw [padLeft]
  generalize rank - shape.length = ones
  induction ones with
  | zero => rfl
  | succ ones ih => rw [List.replicate_succ, List.cons_append, elementCount?_one_cons, ih]

/-! ## Reshapes -/

/-- Entries that stand for themselves. -/
def Plain (pattern : List Int) (specialZero : Bool) : Prop :=
  ∀ entry ∈ pattern, 0 ≤ entry ∧ (specialZero = true → entry ≠ 0)

theorem patternExtents?_of_plain (source : Shape) {pattern : List Int} {specialZero : Bool}
    (plain : Plain pattern specialZero) :
    patternExtents? source pattern specialZero = some (pattern.map Int.toNat) := by
  have closed : pattern.count (-1) = 0 := by
    rw [List.count_eq_zero]
    intro member
    have positive := (plain _ member).1
    omega
  have entries : ∀ entry ∈ pattern.zipIdx,
      patternExtent? source specialZero entry.1 entry.2 = some entry.1.toNat := by
    intro entry member
    obtain ⟨positive, apart⟩ := plain entry.1 (List.fst_mem_of_mem_zipIdx member)
    have notOpen : entry.1 ≠ -1 := by omega
    have notSpecial : ¬(entry.1 = 0 ∧ specialZero = true) := fun both => apart both.2 both.1
    rw [patternExtent?, if_neg notOpen, if_neg notSpecial, if_pos positive]
  have extents : pattern.map Int.toNat = pattern.zipIdx.map (Int.toNat ∘ Prod.fst) := by
    rw [← List.map_map, List.zipIdx_map_fst]
  rw [patternExtents?, closed, if_pos (by decide), mapM_eq_some_iff, extents,
    List.forall₂_map_right_iff, List.forall₂_same]
  exact entries

theorem matchPattern?_of_plain (source : Shape) (total : Nat) {pattern : List Int}
    {specialZero : Bool} (plain : Plain pattern specialZero) :
    matchPattern? source total pattern specialZero =
      if elementCount? (pattern.map Int.toNat) = some total then some (pattern.map Int.toNat)
      else none := by
  have closed : -1 ∉ pattern := by
    intro member
    have positive := (plain _ member).1
    omega
  rw [matchPattern?, patternExtents?_of_plain source plain]
  cases known : elementCount? (pattern.map Int.toNat) with
  | none => simp [known]
  | some count => simp [known, closed]

theorem reshape_of_plain {source : Shape} {total : Nat} {pattern : List Int} {specialZero : Bool}
    (plain : Plain pattern specialZero) (counted : elementCount? source = some total)
    (kept : elementCount? (pattern.map Int.toNat) = some total) :
    reshape source pattern specialZero = .ok (pattern.map Int.toNat) := by
  rw [reshape, counted]
  simp only [matchPattern?_of_plain source total plain, kept, if_true]

theorem reshape_plain_eq_ok {source result : Shape} {pattern : List Int} {specialZero : Bool}
    (plain : Plain pattern specialZero)
    (success : reshape source pattern specialZero = .ok result) : result = pattern.map Int.toNat := by
  rw [reshape] at success
  cases counted : elementCount? source with
  | none => simp [counted] at success
  | some total =>
    simp only [counted, matchPattern?_of_plain source total plain] at success
    by_cases kept : elementCount? (pattern.map Int.toNat) = some total
    · simpa [kept, eq_comm] using success
    · simp [kept] at success

end PartitionLowering.Shape

namespace PartitionLowering.Layout

/-- The shape in which the engine holds a host tensor. -/
def engineShape (shape : Shape) : Shape :=
  (Shape.padLeft 4 shape).channelsFirst

theorem length_engineShape {shape : Shape} (fits : shape.length ≤ 4) :
    (engineShape shape).length = 4 := by
  rw [engineShape, Shape.length_channelsFirst, Shape.length_padLeft fits]

end PartitionLowering.Layout
