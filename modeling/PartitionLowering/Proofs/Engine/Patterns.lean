import PartitionLowering.Proofs.Engine.PatternSolutions

/-!
What a reshape pattern asks for.  `Host.requested` puts the extent that is left in the place of an open entry;
a reshape that succeeds gives just that (`Shape.reshape_eq_requested`).
-/

set_option autoImplicit false

namespace PartitionLowering

/-- The shape that a pattern requests for a count of elements: an open entry takes what the other extents
leave. -/
def Host.requested (count : Nat) (pattern : List Int) : Shape :=
  let others := (pattern.filter fun entry => entry ≠ -1).map Int.toNat
  pattern.map fun entry => if entry = -1 then count / others.prod else entry.toNat

theorem Host.length_requested (count : Nat) (pattern : List Int) :
    (requested count pattern).length = pattern.length := by
  simp [requested]

namespace Shape

section Patterns

variable {source shape extents : Shape} {pattern : List Int} {total : Nat}

def plainExtent (entry : Int) : Nat :=
  if entry = -1 then 1 else entry.toNat

/-- Where zeros are literal, no entry copies an extent of the source. -/
theorem standIns_literal (source : Shape) (pattern : List Int) :
    standIns source pattern false = pattern.map plainExtent := by
  have entries : pattern.map plainExtent = pattern.zipIdx.map (plainExtent ∘ Prod.fst) := by
    rw [← List.map_map, List.zipIdx_map_fst]
  rw [entries]
  apply List.map_congr_left
  intro entry _
  simp [standIn, plainExtent]

/-- An open entry adds nothing to the product. -/
theorem prod_plainExtents (pattern : List Int) :
    (pattern.map plainExtent).prod =
      ((pattern.filter fun entry => entry ≠ -1).map Int.toNat).prod := by
  induction pattern with
  | nil => rfl
  | cons entry rest ih =>
    by_cases isOpen : entry = -1
    · simp [plainExtent, isOpen, ih]
    · simp [plainExtent, isOpen, ih]

theorem fillOpen_plainExtents (pattern : List Int) (extent : Nat) :
    fillOpen pattern (pattern.map plainExtent) extent =
      pattern.map fun entry => if entry = -1 then extent else entry.toNat := by
  induction pattern with
  | nil => rfl
  | cons entry rest ih =>
    rw [List.map_cons, List.map_cons, fillOpen, List.zipWith_cons_cons, ← fillOpen, ih]
    by_cases isOpen : entry = -1
    · simp [isOpen]
    · simp [isOpen, plainExtent]

theorem matchPattern?_eq_requested (asked : matchPattern? source total pattern false = some shape) :
    shape = Host.requested total pattern := by
  obtain ⟨extents, entries, asked⟩ := Option.bind_eq_some_iff.1 asked
  obtain ⟨known, counted, asked⟩ := Option.bind_eq_some_iff.1 asked
  rw [(patternExtents?_eq_some_iff.1 entries).2, standIns_literal] at counted asked
  have product := prod_of_elementCount? counted
  rw [prod_plainExtents] at product
  rw [Host.requested, product]
  by_cases isOpen : -1 ∈ pattern
  · rw [if_pos isOpen] at asked
    by_cases divides : known ≠ 0 ∧ total % known = 0
    · rw [if_pos divides, Option.some.injEq] at asked
      rw [← asked, fillOpen_plainExtents]
    · rw [if_neg divides] at asked
      cases asked
  · rw [if_neg isOpen] at asked
    by_cases exactly : known = total
    · rw [if_pos exactly, Option.some.injEq] at asked
      rw [← asked]
      apply List.map_congr_left
      intro entry member
      have closed : entry ≠ -1 := fun same => isOpen (same ▸ member)
      rw [plainExtent, if_neg closed, if_neg closed]
    · rw [if_neg exactly] at asked
      cases asked

/-- A reshape gives the shape that its pattern requests. -/
theorem reshape_eq_requested (reshaped : reshape source pattern false = .ok shape) :
    shape = Host.requested source.prod pattern := by
  rw [reshape] at reshaped
  cases counted : elementCount? source with
  | none => simp [counted] at reshaped
  | some total =>
    cases asked : matchPattern? source total pattern false with
    | none => simp [counted, asked] at reshaped
    | some result =>
      have same : result = shape := by simpa [counted, asked] using reshaped
      rw [← same, prod_of_elementCount? counted]
      exact matchPattern?_eq_requested asked

end Patterns

/-! ## Layouts -/

theorem prod_channelsFirst (shape : Shape) : shape.channelsFirst.prod = shape.prod := by
  unfold channelsFirst
  split
  · next batch height width channels =>
    simp only [List.prod_cons, List.prod_nil, Nat.mul_one]
    rw [Nat.mul_left_comm channels, Nat.mul_comm channels]
  · rfl

theorem prod_engineShape (shape : Shape) : (Layout.engineShape shape).prod = shape.prod := by
  rw [Layout.engineShape, prod_channelsFirst, prod_padLeft]

/-- Only an image of equal height, width and channels has one shape in both layouts. -/
theorem channelsLast_eq_self_iff {shape : Shape} :
    shape.channelsLast = shape ↔
      (shape.length = 4 → ∃ batch extent, shape = [batch, extent, extent, extent]) := by
  by_cases rank : shape.length = 4
  · obtain ⟨batch, channels, height, width, rfl⟩ := exists_image rank
    simp only [channelsLast, List.cons.injEq, and_true, true_and, rank, forall_const]
    constructor
    · rintro ⟨first, second, _⟩
      exact ⟨batch, channels, rfl, rfl, first, by rw [second, first]⟩
    · rintro ⟨_, extent, _, rfl, rfl, rfl⟩
      exact ⟨rfl, rfl, rfl⟩
  · rw [channelsLast_of_length_ne rank]
    exact ⟨fun _ four => absurd four rank, fun _ => rfl⟩

end Shape

end PartitionLowering
