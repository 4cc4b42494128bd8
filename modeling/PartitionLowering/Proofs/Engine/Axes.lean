import Mathlib.Data.List.Basic
import PartitionLowering.Lowering.Emission.Reduction
import PartitionLowering.Proofs.Engine.Layouts

/-!
Axes of an image in the two layouts.  `Layout.hostAxis` tells which axis of the host an axis of the engine
is.  A reduction of engine axes that keeps the rank is a reduction of the same axes of the host
(`channelsLast_reduceAxes`); one that drops axes leaves the others in the engine's order
(`channelsLast_reduceAxes_drop`), which is the host's where `surviving_eq_iff` says.
-/

set_option autoImplicit false

namespace PartitionLowering

/-! ## Entries of a list of axes -/

/-- The axis that an entry of a list of axes counts to; a negative one counts from the end. -/
def Shape.countedAxis (entry : Int) (rank : Nat) : Nat :=
  (if entry < 0 then entry + rank else entry).toNat

theorem Shape.resolveAxis_eq (entry : Int) (rank : Nat) :
    resolveAxis entry rank =
      if -rank ≤ entry ∧ entry < rank then .ok (countedAxis entry rank) else .error (.axis entry rank) := by
  have inside : (0 ≤ (if entry < 0 then entry + rank else entry) ∧
      (if entry < 0 then entry + rank else entry) < (rank : Int)) ↔ -rank ≤ entry ∧ entry < rank := by
    split <;> omega
  simp only [resolveAxis, countedAxis, inside]

/-- The host's axis that an axis of an engine image is. -/
def Layout.hostAxis (axis : Nat) : Nat :=
  if axis = 1 then 3 else if axis = 2 then 1 else if axis = 3 then 2 else axis

def Host.axisOf (entry : Int32) : Nat :=
  Shape.countedAxis entry.toInt 4

/-- The engine's axis that an entry comes to name when it is renumbered. -/
def Emission.axisOf (entry : Int32) : Nat :=
  Shape.countedAxis (engineAxis entry).toInt 4

def Host.reducedAxis (entry : Int32) : Nat :=
  Layout.hostAxis (Emission.axisOf entry)

section Entries

variable {entry : Int32}

theorem entry_cases (low : -4 ≤ entry) (high : entry ≤ 3) :
    entry = -4 ∨ entry = -3 ∨ entry = -2 ∨ entry = -1 ∨ entry = 0 ∨ entry = 1 ∨ entry = 2 ∨
      entry = 3 := by
  have above : -4 ≤ entry.toInt := Int32.le_iff_toInt_le.1 low
  have below : entry.toInt ≤ 3 := Int32.le_iff_toInt_le.1 high
  simp only [← Int32.toInt_inj]
  change entry.toInt = -4 ∨ entry.toInt = -3 ∨ entry.toInt = -2 ∨ entry.toInt = -1 ∨
    entry.toInt = 0 ∨ entry.toInt = 1 ∨ entry.toInt = 2 ∨ entry.toInt = 3
  omega

theorem engineAxis_range (low : -4 ≤ entry) (high : entry ≤ 3) :
    -4 ≤ (Emission.engineAxis entry).toInt ∧ (Emission.engineAxis entry).toInt < 4 := by
  rcases entry_cases low high with rfl | rfl | rfl | rfl | rfl | rfl | rfl | rfl <;> decide

theorem axisOf_lt (low : -4 ≤ entry) (high : entry ≤ 3) : Emission.axisOf entry < 4 := by
  rcases entry_cases low high with rfl | rfl | rfl | rfl | rfl | rfl | rfl | rfl <;> decide

/-- An entry that is not negative is reduced where it says. -/
theorem reducedAxis_of_valid (valid : 0 ≤ entry) (high : entry ≤ 3) :
    Host.reducedAxis entry = Host.axisOf entry := by
  have low : -4 ≤ entry := Int32.le_trans (by decide) valid
  rcases entry_cases low high with rfl | rfl | rfl | rfl | rfl | rfl | rfl | rfl
  any_goals rfl
  all_goals exact absurd valid (by decide)

end Entries

/-! ## Reductions -/

theorem Layout.hostAxis_injective : Function.Injective hostAxis := by
  intro first second same
  simp only [hostAxis] at same
  split_ifs at same <;> omega

/-- Which axes of the host are among those that engine axes are. -/
theorem mem_hostAxes (axes : List Nat) :
    (0 ∈ axes.map Layout.hostAxis ↔ 0 ∈ axes) ∧ (1 ∈ axes.map Layout.hostAxis ↔ 2 ∈ axes) ∧
      (2 ∈ axes.map Layout.hostAxis ↔ 3 ∈ axes) ∧ (3 ∈ axes.map Layout.hostAxis ↔ 1 ∈ axes) := by
  have member : ∀ axis, Layout.hostAxis axis ∈ axes.map Layout.hostAxis ↔ axis ∈ axes :=
    fun _ => List.mem_map_of_injective Layout.hostAxis_injective
  exact ⟨member 0, member 2, member 3, member 1⟩

namespace Host

/-- A shape in which the named axes have shrunk to one element. -/
def collapse (axes : List Nat) (shape : Shape) : Shape :=
  shape.mapIdx fun axis extent => if axis ∈ axes then 1 else extent

/-- The extents of the axes that are not named, in the order given. -/
def surviving (axes : List Nat) (extents : List (Nat × Nat)) : Shape :=
  (extents.filter fun entry => entry.1 ∉ axes).map Prod.snd

def drop (axes : List Nat) (shape : Shape) : Shape :=
  surviving axes (shape.zipIdx.map Prod.swap)

variable {axes : List Nat}

/-- Two collapses are equal where they differ in axes of one element at most. -/
theorem collapse_eq_iff {axes' : List Nat} {shape : Shape} :
    collapse axes shape = collapse axes' shape ↔
      ∀ axis extent, shape[axis]? = some extent → extent ≠ 1 → (axis ∈ axes ↔ axis ∈ axes') := by
  constructor
  · intro same axis extent here several
    have there := congrArg (·[axis]?) same
    simp only [collapse, List.getElem?_mapIdx, here, Option.map_some, Option.some.injEq] at there
    by_cases named : axis ∈ axes <;> by_cases named' : axis ∈ axes' <;> simp_all
  · intro agree
    apply List.ext_getElem?
    intro axis
    simp only [collapse, List.getElem?_mapIdx]
    cases here : shape[axis]? with
    | none => rfl
    | some extent =>
      by_cases one : extent = 1
      · simp [one]
      · simp [agree axis extent here one]

theorem collapse_image (batch height width channels : Nat) :
    collapse axes [batch, height, width, channels] =
      [if 0 ∈ axes then 1 else batch, if 1 ∈ axes then 1 else height, if 2 ∈ axes then 1 else width,
        if 3 ∈ axes then 1 else channels] :=
  rfl

/-- Channels in front of height and width give way to the host's order where they are not left, or where
the extents that are left are equal. -/
theorem surviving_eq_iff {batch height width channels : Nat} :
    surviving axes [(0, batch), (3, channels), (1, height), (2, width)] =
        drop axes [batch, height, width, channels] ↔
      3 ∈ axes ∨ ((1 ∉ axes → height = channels) ∧ (2 ∉ axes → width = channels)) := by
  by_cases zero : 0 ∈ axes <;> by_cases one : 1 ∈ axes <;> by_cases two : 2 ∈ axes <;>
    by_cases three : 3 ∈ axes <;> simp [drop, surviving, zero, one, two, three] <;> omega

theorem collapse_congr {axes' : List Nat} (same : ∀ axis, axis ∈ axes ↔ axis ∈ axes') (shape : Shape) :
    collapse axes shape = collapse axes' shape := by
  simp only [collapse, same]

theorem drop_congr {axes' : List Nat} (same : ∀ axis, axis ∈ axes ↔ axis ∈ axes') (shape : Shape) :
    drop axes shape = drop axes' shape := by
  simp only [drop, surviving, same]

theorem collapse_collapse {axes' : List Nat} (shape : Shape) :
    collapse axes' (collapse axes shape) = collapse (axes ++ axes') shape := by
  rw [collapse, collapse, collapse, List.mapIdx_mapIdx]
  congr 1
  funext axis extent
  by_cases first : axis ∈ axes <;> simp [first]

theorem zipIdx_collapse (shape : Shape) :
    (collapse axes shape).zipIdx =
      shape.zipIdx.map fun entry => (if entry.2 ∈ axes then 1 else entry.1, entry.2) := by
  apply List.ext_getElem?
  intro axis
  simp only [collapse, List.getElem?_zipIdx, List.getElem?_mapIdx, List.getElem?_map, Option.map_map]
  rw [Nat.zero_add]
  rfl

theorem drop_eq_filterMap (shape : Shape) :
    drop axes shape =
      shape.zipIdx.filterMap fun entry => if entry.2 ∈ axes then none else some entry.1 := by
  rw [drop, surviving, ← List.filterMap_eq_filter, ← List.filterMap_eq_map, ← List.filterMap_eq_map,
    List.filterMap_filterMap, List.filterMap_filterMap]
  congr 1
  funext entry
  by_cases named : entry.2 ∈ axes <;> simp [named, Option.guard]

/-- The extents that are dropped may have shrunk before. -/
theorem drop_collapse (shape : Shape) : drop axes (collapse axes shape) = drop axes shape := by
  rw [drop_eq_filterMap, drop_eq_filterMap, zipIdx_collapse, List.filterMap_map]
  congr 1
  funext entry
  by_cases named : entry.2 ∈ axes <;> simp [named]

end Host

namespace Inference

theorem reduceAxes_keep (shape : Shape) (axes : List Nat) :
    reduceAxes shape axes true = Host.collapse axes shape := by
  rw [reduceAxes, Host.collapse, List.mapIdx_eq_zipIdx_map, ← List.filterMap_eq_map]
  congr 1
  funext entry
  by_cases named : entry.2 ∈ axes <;> simp [named]

theorem reduceAxes_drop (shape : Shape) (axes : List Nat) :
    reduceAxes shape axes false = Host.drop axes shape := by
  rw [reduceAxes, Host.drop_eq_filterMap]
  rfl

end Inference

section Images

variable {batch channels height width : Nat} {axes : List Nat}

theorem channelsLast_reduceAxes :
    (Inference.reduceAxes [batch, channels, height, width] axes true).channelsLast =
      Host.collapse (axes.map Layout.hostAxis) [batch, height, width, channels] := by
  obtain ⟨batches, heights, widths, lasts⟩ := mem_hostAxes axes
  rw [Inference.reduceAxes_keep, Host.collapse_image, Host.collapse_image]
  simp only [batches, heights, widths, lasts]
  rfl

theorem channelsLast_reduceAxes_drop (reduced : ∃ axis ∈ axes, axis < 4) :
    (Inference.reduceAxes [batch, channels, height, width] axes false).channelsLast =
      Host.surviving (axes.map Layout.hostAxis)
        [(0, batch), (3, channels), (1, height), (2, width)] := by
  have one_of_four : 0 ∈ axes ∨ 1 ∈ axes ∨ 2 ∈ axes ∨ 3 ∈ axes := by
    obtain ⟨axis, member, below⟩ := reduced
    have cases : axis = 0 ∨ axis = 1 ∨ axis = 2 ∨ axis = 3 := by omega
    rcases cases with rfl | rfl | rfl | rfl <;> simp [member]
  obtain ⟨batches, heights, widths, lasts⟩ := mem_hostAxes axes
  simp only [Host.surviving, Inference.reduceAxes, List.filter_cons, batches, heights, widths, lasts]
  by_cases zero : 0 ∈ axes <;> by_cases one : 1 ∈ axes <;> by_cases two : 2 ∈ axes <;>
    by_cases three : 3 ∈ axes <;> simp [Shape.channelsLast, zero, one, two, three] at one_of_four ⊢

end Images

end PartitionLowering
