import PartitionLowering.Engine.ShapeError

/-!
Rules on shapes: element counts, permutations, reshape patterns, broadcasting and axes.
-/

set_option autoImplicit false

namespace PartitionLowering

namespace Shape

/-- The product of the extents, where it and each of its prefixes stay a size. -/
def elementCount? (shape : Shape) : Option Nat :=
  Size.product? shape

/-! ## Permutations -/

/-- Each axis below `rank` stands in `order` once. -/
def IsPermutation (order : List Int) (rank : Nat) : Prop :=
  order.length = rank ∧ order.Nodup ∧ ∀ axis ∈ order, 0 ≤ axis ∧ axis < rank

instance (order : List Int) (rank : Nat) : Decidable (IsPermutation order rank) :=
  inferInstanceAs (Decidable (_ ∧ _ ∧ _))

def permute (shape : Shape) (order : List Int) : Except ShapeError Shape :=
  if IsPermutation order shape.length then
    .ok (order.map fun axis => shape.getD axis.toNat 0)
  else .error (.permutation order shape.length)

/-! ## Reshape patterns -/

/-- The extent that the entry at `position` of a pattern asks for; an open entry counts as one.  With
`specialZero` a zero takes the extent of the source at its position. -/
def patternExtent? (source : Shape) (specialZero : Bool) (entry : Int) (position : Nat) :
    Option Nat :=
  if entry = -1 then some 1
  else if entry = 0 ∧ specialZero then source[position]?
  else if 0 ≤ entry then some entry.toNat
  else none

/-- The extents that a pattern asks for, its open entry counting as one. -/
def patternExtents? (source : Shape) (pattern : List Int) (specialZero : Bool) : Option Shape :=
  if pattern.count (-1) ≤ 1 then
    pattern.zipIdx.mapM fun entry => patternExtent? source specialZero entry.1 entry.2
  else none

/-- Puts `extent` where the pattern is open. -/
def fillOpen (pattern : List Int) (extents : Shape) (extent : Nat) : Shape :=
  List.zipWith (fun entry known => if entry = -1 then extent else known) pattern extents

/-- The shape with the elements of `source` that a pattern asks for, the open entry taking the extent
that is left. -/
def matchPattern? (source : Shape) (total : Nat) (pattern : List Int) (specialZero : Bool) :
    Option Shape := do
  let extents ← patternExtents? source pattern specialZero
  let known ← elementCount? extents
  if -1 ∈ pattern then
    if known ≠ 0 ∧ total % known = 0 then some (fillOpen pattern extents (total / known)) else none
  else if known = total then some extents
  else none

def reshape (source : Shape) (pattern : List Int) (specialZero : Bool) :
    Except ShapeError Shape :=
  match elementCount? source with
  | none => .error (.overflow source)
  | some total =>
    match matchPattern? source total pattern specialZero with
    | some shape => .ok shape
    | none => .error (.reshape source pattern)

/-! ## Broadcasting -/

/-- The shape with ones in front, up to `rank`. -/
def padLeft (rank : Nat) (shape : Shape) : Shape :=
  List.replicate (rank - shape.length) 1 ++ shape

/-- Equal extents stay, and a one gives way. -/
def joinExtents? (a b : Nat) : Option Nat :=
  if a = b then some a
  else if a = 1 then some b
  else if b = 1 then some a
  else none

/-- Both shapes aligned at their last axis and joined axis by axis. -/
def broadcast? (lhs rhs : Shape) : Option Shape :=
  let rank := max lhs.length rhs.length
  ((padLeft rank lhs).zip (padLeft rank rhs)).mapM fun extents => joinExtents? extents.1 extents.2

def broadcast (lhs rhs : Shape) : Except ShapeError Shape :=
  match broadcast? lhs rhs with
  | some shape => .ok shape
  | none => .error (.broadcast lhs rhs)

/-! ## Axes -/

/-- The axis that a number names; a negative one counts from the end. -/
def resolveAxis (axis : Int) (rank : Nat) : Except ShapeError Nat :=
  let resolved := if axis < 0 then axis + rank else axis
  if 0 ≤ resolved ∧ resolved < rank then .ok resolved.toNat else .error (.axis axis rank)

end Shape

end PartitionLowering
