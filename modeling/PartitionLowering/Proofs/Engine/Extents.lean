import Mathlib.Algebra.BigOperators.Group.List.Basic
import Mathlib.Algebra.Order.BigOperators.Ring.List
import Mathlib.Algebra.Order.Ring.Nat
import Mathlib.Data.List.Nodup
import Mathlib.Data.List.Perm.Subperm
import PartitionLowering.Proofs.Engine.Broadcasting

/-!
Extents under the rules on shapes.  A permutation and a reshape keep the product of the extents
(`Shape.perm_of_permute`, `Shape.prod_of_reshape`); broadcasting, resizing and windows give positive
extents for positive ones.  A product of positive extents is a size exactly when it stays below the bound
(`Size.product?_ne_none`).
-/

set_option autoImplicit false

namespace PartitionLowering

/-! ## Products of sizes -/

namespace Size

theorem foldlM_mul?_eq_some {extents : List Nat} {start count : Nat}
    (counted : extents.foldlM mul? start = some count) : start * extents.prod = count := by
  induction extents generalizing start with
  | nil => simpa using counted
  | cons extent rest ih =>
    rw [List.foldlM_cons, mul?] at counted
    by_cases small : start * extent < bound
    · rw [if_pos small] at counted
      have later : start * extent * rest.prod = count := ih counted
      rw [List.prod_cons, ← Nat.mul_assoc, later]
    · rw [if_neg small] at counted
      cases counted

theorem product?_eq_some {extents : List Nat} {count : Nat}
    (counted : product? extents = some count) : extents.prod = count := by
  have whole := foldlM_mul?_eq_some counted
  rwa [Nat.one_mul] at whole

theorem foldlM_mul?_ne_none {extents : List Nat} (positive : ∀ extent ∈ extents, 0 < extent)
    (start : Nat) (small : start < bound) (some_start : 0 < start) :
    extents.foldlM mul? start ≠ none ↔ start * extents.prod < bound := by
  induction extents generalizing start with
  | nil => simpa using small
  | cons extent rest ih =>
    have here : 0 < extent := positive extent List.mem_cons_self
    have later : ∀ other ∈ rest, 0 < other :=
      fun other member => positive other (List.mem_cons_of_mem _ member)
    rw [List.foldlM_cons, mul?, List.prod_cons, ← Nat.mul_assoc]
    by_cases fits : start * extent < bound
    · rw [if_pos fits]
      exact ih later _ fits (Nat.mul_pos some_start here)
    · rw [if_neg fits]
      -- the factors behind a product that is too large cannot make it smaller
      have rest_pos : 0 < rest.prod := CanonicallyOrderedAdd.list_prod_pos.2 later
      have grows : start * extent ≤ start * extent * rest.prod := Nat.le_mul_of_pos_right _ rest_pos
      have large : ¬start * extent * rest.prod < bound := by omega
      simp [large]

/-- The product of positive extents is a size exactly when it stays below the bound. -/
theorem product?_ne_none {extents : List Nat} (positive : ∀ extent ∈ extents, 0 < extent) :
    product? extents ≠ none ↔ extents.prod < bound := by
  have whole := foldlM_mul?_ne_none positive 1 (by decide) (by decide)
  rwa [Nat.one_mul] at whole

end Size

namespace Shape

def Positive (shape : Shape) : Prop :=
  ∀ extent ∈ shape, 0 < extent

theorem Positive.cons {extent : Nat} {rest : Shape} (here : 0 < extent) (later : Positive rest) :
    Positive (extent :: rest) :=
  List.forall_mem_cons.2 ⟨here, later⟩

theorem positive_nil : Positive [] :=
  List.forall_mem_nil _

theorem positive_iff_prod {shape : Shape} : shape.Positive ↔ 0 < shape.prod :=
  CanonicallyOrderedAdd.list_prod_pos.symm

theorem prod_of_elementCount? {shape : Shape} {count : Nat}
    (counted : elementCount? shape = some count) : shape.prod = count :=
  Size.product?_eq_some counted

theorem Positive.of_prod {source shape : Shape} (positive : source.Positive)
    (same : shape.prod = source.prod) : shape.Positive := by
  rw [positive_iff_prod, same]
  exact positive_iff_prod.1 positive

/-- Positive extents are counted where their product is a size. -/
theorem elementCount?_of_positive {shape : Shape} (positive : shape.Positive) :
    elementCount? shape = if shape.prod < Size.bound then some shape.prod else none := by
  have room : elementCount? shape ≠ none ↔ shape.prod < Size.bound := Size.product?_ne_none positive
  cases counted : elementCount? shape with
  | none =>
    rw [if_neg fun small => room.2 small counted]
  | some total =>
    have small := room.1 (by simp [counted])
    rw [if_pos small, prod_of_elementCount? counted]

/-- Positive extents are counted as others of the same product are. -/
theorem elementCount?_congr {shape other : Shape} (positive : shape.Positive)
    (same : other.prod = shape.prod) : elementCount? other = elementCount? shape := by
  rw [elementCount?_of_positive positive, elementCount?_of_positive (positive.of_prod same), same]

/-! ## Permutations -/

theorem map_getD_range {α : Type} (list : List α) (default : α) :
    ((List.range list.length).map fun axis => list.getD axis default) = list := by
  apply List.ext_getElem
  · simp
  · intro axis below _
    rw [List.length_map, List.length_range] at below
    simp [below]

/-- A list in a new order; an axis that it does not have gives the default. -/
def rearrange {α : Type} (order : List Int) (default : α) (list : List α) : List α :=
  order.map fun axis => list.getD axis.toNat default

theorem perm_range_of_isPermutation {order : List Int} {rank : Nat}
    (permutes : IsPermutation order rank) : (order.map Int.toNat).Perm (List.range rank) := by
  obtain ⟨length, distinct, inside⟩ := permutes
  have nodup : (order.map Int.toNat).Nodup := by
    refine List.Nodup.map_on ?_ distinct
    intro axis member other member' same
    have here := inside axis member
    have there := inside other member'
    omega
  have subset : order.map Int.toNat ⊆ List.range rank := by
    intro axis member
    obtain ⟨entry, inOrder, rfl⟩ := List.mem_map.1 member
    have range := inside entry inOrder
    rw [List.mem_range]
    omega
  refine (nodup.subperm subset).perm_of_length_le ?_
  rw [List.length_range, List.length_map, length]

/-- The orders of a rank are the permutations of its axes. -/
theorem isPermutation_iff_perm {order : List Int} {rank : Nat} :
    IsPermutation order rank ↔ order.Perm ((List.range rank).map Int.ofNat) := by
  constructor
  · intro permutes
    have axes := (perm_range_of_isPermutation permutes).map Int.ofNat
    have same : (order.map Int.toNat).map Int.ofNat = order := by
      rw [List.map_map]
      refine (List.map_congr_left fun axis member => ?_).trans (List.map_id order)
      exact Int.toNat_of_nonneg (permutes.2.2 axis member).1
    rwa [same] at axes
  · intro perm
    refine ⟨by simpa using perm.length_eq, ?_, ?_⟩
    · exact perm.nodup_iff.2 (List.nodup_range.map fun _ _ => Int.ofNat.inj)
    · intro axis member
      obtain ⟨position, below, rfl⟩ := List.mem_map.1 (perm.mem_iff.1 member)
      rw [List.mem_range] at below
      exact ⟨Int.natCast_nonneg position, Int.ofNat_lt.2 below⟩

theorem perm_rearrange {α : Type} {order : List Int} {list : List α} (default : α)
    (permutes : IsPermutation order list.length) : (rearrange order default list).Perm list := by
  have axes := (perm_range_of_isPermutation permutes).map fun axis => list.getD axis default
  rwa [map_getD_range, List.map_map] at axes

theorem permute_of_isPermutation {shape : Shape} {order : List Int}
    (permutes : IsPermutation order shape.length) :
    permute shape order = .ok (rearrange order 0 shape) :=
  if_pos permutes

theorem perm_of_permute {source shape : Shape} {order : List Int}
    (permuted : permute source order = .ok shape) : List.Perm shape source := by
  by_cases valid : IsPermutation order source.length
  · rw [permute_of_isPermutation valid, Except.ok.injEq] at permuted
    rw [← permuted]
    exact perm_rearrange 0 valid
  · rw [permute, if_neg valid] at permuted
    cases permuted

/-! ## Reshape patterns -/

/-- An open entry of a pattern counts as one where the extents are multiplied. -/
def CountsAsOne (entry : Int) (extent : Nat) : Prop :=
  entry = -1 → extent = 1

theorem countsAsOne_of_patternExtent? {source : Shape} {specialZero : Bool} {entry : Int}
    {position extent : Nat} (asked : patternExtent? source specialZero entry position = some extent) :
    CountsAsOne entry extent := by
  intro isOpen
  rw [patternExtent?, if_pos isOpen] at asked
  exact (Option.some.inj asked).symm

theorem ones_of_patternExtents? {source : Shape} {specialZero : Bool} {pattern : List Int}
    {extents : Shape} (asked : patternExtents? source pattern specialZero = some extents) :
    List.Forall₂ CountsAsOne pattern extents := by
  rw [patternExtents?] at asked
  by_cases single : pattern.count (-1) ≤ 1
  · rw [if_pos single, mapM_eq_some_iff] at asked
    have entries : List.Forall₂ CountsAsOne (pattern.zipIdx.map Prod.fst) extents :=
      List.forall₂_map_left_iff.2 (asked.imp fun _ _ here => countsAsOne_of_patternExtent? here)
    rwa [List.zipIdx_map_fst] at entries
  · rw [if_neg single] at asked
    cases asked

section FillOpen

variable {pattern : List Int} {extents : Shape} {extent : Nat}

theorem fillOpen_of_closed (ones : List.Forall₂ CountsAsOne pattern extents)
    (closed : -1 ∉ pattern) : fillOpen pattern extents extent = extents := by
  induction ones with
  | nil => rfl
  | cons _ _ ih =>
    rw [List.mem_cons, not_or] at closed
    have given : ¬_ = (-1 : Int) := Ne.symm closed.1
    rw [fillOpen, List.zipWith_cons_cons, if_neg given, ← fillOpen, ih closed.2]

theorem prod_fillOpen (ones : List.Forall₂ CountsAsOne pattern extents)
    (single : pattern.count (-1) = 1) :
    (fillOpen pattern extents extent).prod = extent * extents.prod := by
  induction ones with
  | nil => cases single
  | @cons entry known rest others one later ih =>
    by_cases isOpen : entry = -1
    · have closed : -1 ∉ rest := by
        subst isOpen
        rw [List.count_cons_self] at single
        exact List.count_eq_zero.1 (Nat.succ.inj single)
      rw [fillOpen, List.zipWith_cons_cons, if_pos isOpen, ← fillOpen, fillOpen_of_closed later closed,
        List.prod_cons, List.prod_cons, one isOpen, Nat.one_mul]
    · rw [List.count_cons_of_ne isOpen] at single
      rw [fillOpen, List.zipWith_cons_cons, if_neg isOpen, ← fillOpen, List.prod_cons, ih single,
        List.prod_cons, Nat.mul_left_comm]

end FillOpen

theorem prod_of_matchPattern? {source shape : Shape} {total : Nat} {pattern : List Int}
    {specialZero : Bool} (asked : matchPattern? source total pattern specialZero = some shape) :
    shape.prod = total := by
  obtain ⟨extents, entries, asked⟩ := Option.bind_eq_some_iff.1 asked
  obtain ⟨known, counted, asked⟩ := Option.bind_eq_some_iff.1 asked
  have ones := ones_of_patternExtents? entries
  have product := prod_of_elementCount? counted
  by_cases isOpen : -1 ∈ pattern
  · rw [if_pos isOpen] at asked
    by_cases divides : known ≠ 0 ∧ total % known = 0
    · rw [if_pos divides, Option.some.injEq] at asked
      have single : pattern.count (-1) = 1 := by
        have one_or_more := List.one_le_count_iff.2 isOpen
        have one_or_less : pattern.count (-1) ≤ 1 := by
          by_contra several
          simp [patternExtents?, several] at entries
        omega
      rw [← asked, prod_fillOpen ones single, product]
      exact Nat.div_mul_cancel (Nat.dvd_of_mod_eq_zero divides.2)
    · rw [if_neg divides] at asked
      cases asked
  · rw [if_neg isOpen] at asked
    by_cases exactly : known = total
    · rw [if_pos exactly, Option.some.injEq] at asked
      rw [← asked, product, exactly]
    · rw [if_neg exactly] at asked
      cases asked

theorem prod_of_reshape {source shape : Shape} {pattern : List Int} {specialZero : Bool}
    (reshaped : reshape source pattern specialZero = .ok shape) : shape.prod = source.prod := by
  rw [reshape] at reshaped
  cases counted : elementCount? source with
  | none => simp [counted] at reshaped
  | some total =>
    cases asked : matchPattern? source total pattern specialZero with
    | none => simp [counted, asked] at reshaped
    | some result =>
      have same : result = shape := by simpa [counted, asked] using reshaped
      rw [← same, prod_of_matchPattern? asked, prod_of_elementCount? counted]

/-! ## Broadcasting -/

theorem prod_padLeft (rank : Nat) (shape : Shape) : (padLeft rank shape).prod = shape.prod := by
  rw [padLeft, List.prod_append, List.prod_replicate, Nat.one_pow, Nat.one_mul]

theorem Positive.padLeft {shape : Shape} (positive : shape.Positive) (rank : Nat) :
    (padLeft rank shape).Positive := by
  intro extent member
  rcases List.mem_append.1 member with ones | given
  · rw [List.eq_of_mem_replicate ones]
    decide
  · exact positive extent given

theorem joinExtents?_cases {a b extent : Nat} (joined : joinExtents? a b = some extent) :
    extent = a ∨ extent = b := by
  rw [joinExtents?] at joined
  split_ifs at joined <;> simp_all

theorem positive_of_joinAll? {extents : List (Nat × Nat)} {shape : Shape}
    (positive : ∀ pair ∈ extents, 0 < pair.1 ∧ 0 < pair.2) (joined : joinAll? extents = some shape) :
    shape.Positive := by
  induction extents generalizing shape with
  | nil =>
    cases joined
    exact positive_nil
  | cons pair rest ih =>
    rw [joinAll?_cons] at joined
    obtain ⟨extent, here, joined⟩ := Option.bind_eq_some_iff.1 joined
    obtain ⟨others, there, rfl⟩ := Option.map_eq_some_iff.1 joined
    obtain ⟨left, right⟩ := positive pair List.mem_cons_self
    refine .cons ?_ (ih (fun other member => positive other (List.mem_cons_of_mem _ member)) there)
    rcases joinExtents?_cases here with rfl | rfl
    · exact left
    · exact right

theorem Positive.broadcast {lhs rhs shape : Shape} (left : lhs.Positive) (right : rhs.Positive)
    (joined : broadcast lhs rhs = .ok shape) : shape.Positive := by
  rw [broadcast_eq_ok, broadcast?_eq] at joined
  refine positive_of_joinAll? ?_ joined
  intro pair member
  have sides := List.of_mem_zip member
  exact ⟨left.padLeft _ _ sides.1, right.padLeft _ _ sides.2⟩

/-! ## Axes -/

theorem Positive.set {shape : Shape} (positive : shape.Positive) {extent : Nat} (given : 0 < extent)
    (axis : Nat) : Positive (shape.set axis extent) := by
  intro other member
  rcases List.mem_or_eq_of_mem_set member with old | rfl
  · exact positive other old
  · exact given

theorem Positive.modify {shape : Shape} (positive : shape.Positive) (axis more : Nat) :
    Positive (shape.modify axis (· + more)) := by
  induction shape generalizing axis with
  | nil => simpa using positive_nil
  | cons extent rest ih =>
    obtain ⟨here, later⟩ := List.forall_mem_cons.1 positive
    cases axis with
    | zero => exact .cons (Nat.lt_of_lt_of_le here (Nat.le_add_right _ _)) later
    | succ axis => exact .cons here (ih later axis)

end Shape

/-! ## Lists of axes and parts -/

namespace Shape.Positive

variable {shape result : Shape}

theorem reduceAxes (positive : shape.Positive) (axes : List Nat) (keepDims : Bool) :
    (Inference.reduceAxes shape axes keepDims).Positive := by
  intro extent member
  obtain ⟨⟨given, axis⟩, inside, kept⟩ := List.mem_filterMap.1 member
  have given_pos : 0 < given := positive given (List.fst_mem_of_mem_zipIdx inside)
  by_cases reduced : axis ∈ axes
  · cases keepDims with
    | true =>
      have one : 1 = extent := by simpa [reduced] using kept
      omega
    | false => simp [reduced] at kept
  · have same : given = extent := by simpa [reduced] using kept
    omega

theorem resizeAxes {op : String} {targets : List (Int × Int)} (positive : shape.Positive)
    (resized : Inference.resizeAxes op targets shape = .ok result) : result.Positive := by
  induction targets generalizing shape with
  | nil =>
    cases resized
    exact positive
  | cons target rest ih =>
    obtain ⟨size, axis⟩ := target
    rw [Inference.resizeAxes, guard_eq_ok] at resized
    obtain ⟨given, resized⟩ := resized
    obtain ⟨position, _, resized⟩ := bind_eq_ok.1 resized
    exact ih (positive.set (by omega) position) resized

theorem joinParts {op : String} {axis : Nat} {first : Node} {parts : List Node}
    (positive : shape.Positive) (joined : Inference.joinParts op axis first parts shape = .ok result) :
    result.Positive := by
  induction parts generalizing shape with
  | nil =>
    cases joined
    exact positive
  | cons part rest ih =>
    rw [Inference.joinParts, guard_eq_ok, guard_eq_ok] at joined
    obtain ⟨_, _, joined⟩ := joined
    exact ih (positive.modify axis _) joined

end Shape.Positive

/-! ## Windows -/

namespace Window

variable {op : String} {input kernel stride dilation extent : Nat} {padMode : PadMode}

theorem forward_pos (given : 0 < input)
    (fits : forward op input kernel stride dilation padMode = .ok extent) : 0 < extent := by
  rw [forward.eq_def, guard_eq_ok] at fits
  obtain ⟨positive, fits⟩ := fits
  have stride_pos : 0 < stride := by omega
  cases padMode with
  | sameUpper =>
    cases fits
    exact Nat.div_pos (by omega) stride_pos
  | valid =>
    simp only [guard_eq_ok] at fits
    cases fits.2
    exact Nat.succ_pos _

theorem backward_pos (covers : backward op input kernel stride dilation padMode = .ok extent) :
    0 < extent := by
  rw [backward.eq_def, guard_eq_ok, guard_eq_ok] at covers
  obtain ⟨positive, given, covers⟩ := covers
  have stride_pos : 0 < stride := by omega
  have input_pos : 0 < input := by omega
  cases padMode with
  | sameUpper =>
    cases covers
    exact Nat.mul_pos input_pos stride_pos
  | valid =>
    cases covers
    exact Nat.succ_pos _

end Window

end PartitionLowering
