import Mathlib.Data.List.Infix
import PartitionLowering.Proofs.Engine.Extents

/-!
Reshapes as equations.  A pattern and a source ask for a shape that matches the pattern and has the
source's elements; `Shape.Matches` says what matches, by itself.  What matches is the pattern's stand-ins
with one extent put where the pattern is open (`Shape.matches_iff`), so that the equation has one unknown at
most.  Main statement: `Shape.reshape_solves`, a reshape gives the only solution, and fails where there is
none or more than one.
-/

set_option autoImplicit false

namespace PartitionLowering

/-! ## Products -/

namespace Size

theorem foldlM_mul?_of_prefixes {extents : List Nat} {start : Nat}
    (small : ∀ front ∈ extents.inits, start * front.prod < bound) :
    extents.foldlM mul? start = some (start * extents.prod) := by
  induction extents generalizing start with
  | nil => simp
  | cons extent rest ih =>
    have longer : ∀ front ∈ rest.inits, start * extent * front.prod < bound := by
      intro front member
      have here := small (extent :: front) (by simpa using member)
      rwa [List.prod_cons, ← Nat.mul_assoc] at here
    have first : start * extent < bound := by simpa using longer [] (by simp)
    rw [List.foldlM_cons, mul?, if_pos first]
    exact (ih longer).trans (by rw [List.prod_cons, Nat.mul_assoc])

/-- A product no prefix of which is too large. -/
theorem product?_of_prefixes {extents : List Nat} (small : ∀ front ∈ extents.inits, front.prod < bound) :
    product? extents = some extents.prod := by
  have start : ∀ front ∈ extents.inits, 1 * front.prod < bound := by simpa using small
  have whole := foldlM_mul?_of_prefixes start
  rwa [Nat.one_mul] at whole

end Size

namespace Shape

/-! ## Patterns and what matches them -/

/-- What an entry counts as while the open one is not settled: an open entry as one, and a zero that copies
as the extent of the source at its position. -/
def standIn (source : Shape) (specialZero : Bool) (entry : Int) (position : Nat) : Nat :=
  if entry = -1 then 1
  else if entry = 0 ∧ specialZero then source.getD position 0
  else entry.toNat

def standIns (source : Shape) (pattern : List Int) (specialZero : Bool) : Shape :=
  pattern.zipIdx.map fun entry => standIn source specialZero entry.1 entry.2

/-- Entries that a reshape takes. -/
structure Admissible (source : Shape) (pattern : List Int) (specialZero : Bool) : Prop where
  entries : ∀ entry ∈ pattern, -1 ≤ entry
  single : pattern.count (-1) ≤ 1
  copies : ∀ position, pattern[position]? = some 0 → specialZero = true → position < source.length

/-- A shape has the extents that a pattern gives; where the pattern is open it may have any. -/
structure Matches (source : Shape) (pattern : List Int) (specialZero : Bool) (shape : Shape) : Prop where
  length_eq : shape.length = pattern.length
  given : ∀ (position : Nat) (entry : Int), pattern[position]? = some entry →
    (0 < entry ∨ entry = 0 ∧ specialZero = false) → shape[position]? = some entry.toNat
  copied : ∀ position : Nat, pattern[position]? = some 0 → specialZero = true →
    position < source.length ∧ shape[position]? = source[position]?

structure OnlySolution (source : Shape) (pattern : List Int) (specialZero : Bool) (shape : Shape) :
    Prop where
  admissible : Admissible source pattern specialZero
  fits : Matches source pattern specialZero shape
  prod_eq : shape.prod = source.prod
  only : ∀ other, Matches source pattern specialZero other → other.prod = source.prod → other = shape

section Patterns

variable {source shape extents : Shape} {pattern : List Int} {specialZero : Bool} {extent total : Nat}

theorem patternExtent?_eq_some_iff {entry : Int} {position : Nat} :
    patternExtent? source specialZero entry position = some extent ↔
      (-1 ≤ entry ∧ (entry = 0 → specialZero = true → position < source.length)) ∧
        standIn source specialZero entry position = extent := by
  rw [patternExtent?, standIn]
  by_cases isOpen : entry = -1
  · simp [isOpen]
  rw [if_neg isOpen, if_neg isOpen]
  by_cases copies : entry = 0 ∧ specialZero = true
  · rw [if_pos copies, if_pos copies, List.getD_eq_getElem?_getD]
    by_cases below : position < source.length
    · simp [copies, below]
    · simp [copies, below]
  rw [if_neg copies, if_neg copies]
  have plain : entry = 0 → specialZero = true → position < source.length :=
    fun zero special => absurd ⟨zero, special⟩ copies
  by_cases valid : 0 ≤ entry
  · have above : -1 ≤ entry := by omega
    simpa [valid, above] using fun _ => plain
  · have below : ¬-1 ≤ entry := by omega
    simp [valid, below]

/-- The extents of a pattern that can be had are its stand-ins. -/
theorem patternExtents?_eq_some_iff :
    patternExtents? source pattern specialZero = some extents ↔
      Admissible source pattern specialZero ∧ extents = standIns source pattern specialZero := by
  have entries : (pattern.zipIdx.mapM fun entry => patternExtent? source specialZero entry.1 entry.2) =
        some extents ↔
      (∀ entry ∈ pattern.zipIdx, -1 ≤ entry.1 ∧
        (entry.1 = 0 → specialZero = true → entry.2 < source.length)) ∧
      standIns source pattern specialZero = extents := by
    simp only [mapM_eq_some_iff, patternExtent?_eq_some_iff]
    rw [List.forall₂_and_left, standIns, ← List.forall₂_map_left_iff, List.forall₂_eq_eq_eq]
  have valid : (∀ entry ∈ pattern.zipIdx, -1 ≤ entry.1 ∧
        (entry.1 = 0 → specialZero = true → entry.2 < source.length)) ↔
      (∀ entry ∈ pattern, -1 ≤ entry) ∧
        ∀ position, pattern[position]? = some 0 → specialZero = true → position < source.length := by
    simp only [Prod.forall, List.mem_zipIdx_iff_getElem?]
    constructor
    · intro each
      refine ⟨fun entry member => ?_, fun position here => (each 0 position here).2 rfl⟩
      obtain ⟨position, here⟩ := List.getElem?_of_mem member
      exact (each entry position here).1
    · rintro ⟨above, copies⟩ entry position here
      exact ⟨above entry (List.mem_of_getElem? here), fun zero => copies position (zero ▸ here)⟩
  rw [patternExtents?]
  by_cases single : pattern.count (-1) ≤ 1
  · rw [if_pos single, entries, valid, eq_comm (a := extents)]
    refine and_congr_left fun _ => ⟨?_, fun given => ⟨given.entries, given.copies⟩⟩
    rintro ⟨above, copies⟩
    exact ⟨above, single, copies⟩
  · rw [if_neg single]
    exact iff_of_false (Option.some_ne_none extents).symm fun given => single given.1.single

/-! ### Matching shapes -/

theorem eq_idxOf_of_count_le_one {list : List Int} {entry : Int} {position : Nat}
    (single : list.count entry ≤ 1) (here : list[position]? = some entry) :
    position = list.idxOf entry := by
  induction list generalizing position with
  | nil => simp at here
  | cons head rest ih =>
    by_cases same : head = entry
    · subst same
      rw [List.count_cons_self] at single
      have absent : head ∉ rest := List.count_eq_zero.1 (by omega)
      cases position with
      | zero => rw [List.idxOf_cons_self]
      | succ position =>
        rw [List.getElem?_cons_succ] at here
        exact absurd (List.mem_of_getElem? here) absent
    · rw [List.count_cons_of_ne same] at single
      cases position with
      | zero => exact absurd (Option.some.inj here) same
      | succ position =>
        rw [List.getElem?_cons_succ] at here
        rw [List.idxOf_cons_ne _ same, ih single here]

theorem getElem?_standIns (position : Nat) :
    (standIns source pattern specialZero)[position]? =
      pattern[position]?.map fun entry => standIn source specialZero entry position := by
  rw [standIns, List.getElem?_map, List.getElem?_zipIdx, Option.map_map, Nat.zero_add]
  rfl

theorem getElem?_fillOpen (position : Nat) :
    (fillOpen pattern (standIns source pattern specialZero) extent)[position]? =
      pattern[position]?.map fun entry =>
        if entry = -1 then extent else standIn source specialZero entry position := by
  rw [fillOpen, List.getElem?_zipWith, getElem?_standIns]
  cases pattern[position]? <;> rfl

theorem length_fillOpen :
    (fillOpen pattern (standIns source pattern specialZero) extent).length = pattern.length := by
  simp [fillOpen, standIns]

/-- What matches a pattern is its stand-ins, with some extent where the pattern is open. -/
theorem matches_iff (admissible : Admissible source pattern specialZero) :
    Matches source pattern specialZero shape ↔
      ∃ extent, shape = fillOpen pattern (standIns source pattern specialZero) extent := by
  constructor
  · intro fits
    refine ⟨shape.getD (pattern.idxOf (-1)) 0, List.ext_getElem? fun position => ?_⟩
    rw [getElem?_fillOpen]
    cases here : pattern[position]? with
    | none =>
      rw [Option.map_none, List.getElem?_eq_none_iff, fits.length_eq]
      exact List.getElem?_eq_none_iff.1 here
    | some entry =>
      rw [Option.map_some]
      by_cases isOpen : entry = -1
      · subst isOpen
        have below : position < shape.length := by
          rw [fits.length_eq]
          exact (List.getElem?_eq_some_iff.1 here).1
        rw [if_pos rfl, ← eq_idxOf_of_count_le_one admissible.single here]
        simp [below]
      rw [if_neg isOpen, standIn, if_neg isOpen]
      by_cases copies : entry = 0 ∧ specialZero = true
      · rw [if_pos copies]
        obtain ⟨below, same⟩ := fits.copied position (copies.1 ▸ here) copies.2
        rw [same]
        simp [below]
      · rw [if_neg copies]
        have above := admissible.entries entry (List.mem_of_getElem? here)
        have given : 0 < entry ∨ entry = 0 ∧ specialZero = false := by
          cases specialZero <;> simp at copies ⊢ <;> omega
        exact fits.given position entry here given
  · rintro ⟨extent, rfl⟩
    refine ⟨length_fillOpen, ?_, ?_⟩
    · intro position entry here given
      have closed : entry ≠ -1 := by omega
      have plain : ¬(entry = 0 ∧ specialZero = true) := by
        rintro ⟨zero, special⟩
        rcases given with positive | ⟨_, literal⟩
        · omega
        · exact Bool.noConfusion (special.symm.trans literal)
      rw [getElem?_fillOpen, here, Option.map_some, if_neg closed, standIn, if_neg closed, if_neg plain]
    · intro position here special
      have below := admissible.copies position here special
      refine ⟨below, ?_⟩
      rw [getElem?_fillOpen, here, Option.map_some, if_neg (by decide), standIn, if_neg (by decide),
        if_pos ⟨rfl, special⟩]
      simp [below]

/-! ## Solutions -/

/-- A pattern without an open entry is matched by its stand-ins alone. -/
theorem matches_iff_of_closed (admissible : Admissible source pattern specialZero)
    (closed : -1 ∉ pattern) :
    Matches source pattern specialZero shape ↔ shape = standIns source pattern specialZero := by
  have ones := ones_of_patternExtents? (patternExtents?_eq_some_iff.2 ⟨admissible, rfl⟩)
  simp [matches_iff admissible, fillOpen_of_closed ones closed]

theorem prod_fillOpen_standIns (admissible : Admissible source pattern specialZero)
    (isOpen : -1 ∈ pattern) :
    (fillOpen pattern (standIns source pattern specialZero) extent).prod =
      extent * (standIns source pattern specialZero).prod := by
  have ones := ones_of_patternExtents? (patternExtents?_eq_some_iff.2 ⟨admissible, rfl⟩)
  have some_open : 1 ≤ pattern.count (-1) := List.one_le_count_iff.2 isOpen
  exact prod_fillOpen ones (Nat.le_antisymm admissible.single some_open)

theorem fillOpen_standIns_inj {other : Nat} (isOpen : -1 ∈ pattern)
    (same : fillOpen pattern (standIns source pattern specialZero) extent =
      fillOpen pattern (standIns source pattern specialZero) other) : extent = other := by
  obtain ⟨position, here⟩ := List.getElem?_of_mem isOpen
  have there := congrArg (fun filled : Shape => filled[position]?) same
  simpa [getElem?_fillOpen, here] using there

theorem onlySolution_iff_of_closed (admissible : Admissible source pattern specialZero)
    (closed : -1 ∉ pattern) :
    OnlySolution source pattern specialZero shape ↔
      (standIns source pattern specialZero).prod = source.prod ∧
        standIns source pattern specialZero = shape := by
  constructor
  · intro solution
    have same := (matches_iff_of_closed admissible closed).1 solution.fits
    exact ⟨same ▸ solution.prod_eq, same.symm⟩
  · rintro ⟨product, rfl⟩
    exact ⟨admissible, (matches_iff_of_closed admissible closed).2 rfl, product,
      fun other fits _ => (matches_iff_of_closed admissible closed).1 fits⟩

/-- An open entry is settled by a division.  Known extents without an element leave it open: then every
extent there has the same elements. -/
theorem onlySolution_iff_of_open (admissible : Admissible source pattern specialZero)
    (isOpen : -1 ∈ pattern) :
    OnlySolution source pattern specialZero shape ↔
      ((standIns source pattern specialZero).prod ≠ 0 ∧
        source.prod % (standIns source pattern specialZero).prod = 0) ∧
        fillOpen pattern (standIns source pattern specialZero)
          (source.prod / (standIns source pattern specialZero).prod) = shape := by
  constructor
  · intro solution
    obtain ⟨extent, rfl⟩ := (matches_iff admissible).1 solution.fits
    have product := solution.prod_eq
    rw [prod_fillOpen_standIns admissible isOpen] at product
    have known_ne : (standIns source pattern specialZero).prod ≠ 0 := by
      intro empty
      rw [empty, Nat.mul_zero] at product
      have next : (fillOpen pattern (standIns source pattern specialZero) (extent + 1)).prod =
          source.prod := by
        rw [prod_fillOpen_standIns admissible isOpen, empty, Nat.mul_zero, product]
      have same := solution.only _ ((matches_iff admissible).2 ⟨extent + 1, rfl⟩) next
      exact absurd (fillOpen_standIns_inj isOpen same) (Nat.succ_ne_self extent)
    refine ⟨⟨known_ne, ?_⟩, ?_⟩
    · rw [← product, Nat.mul_mod_left]
    · rw [← product, Nat.mul_div_cancel _ (Nat.pos_of_ne_zero known_ne)]
  · rintro ⟨⟨known_ne, divides⟩, rfl⟩
    refine ⟨admissible, (matches_iff admissible).2 ⟨_, rfl⟩, ?_, ?_⟩
    · rw [prod_fillOpen_standIns admissible isOpen]
      exact Nat.div_mul_cancel (Nat.dvd_of_mod_eq_zero divides)
    · intro other fits product
      obtain ⟨extent, rfl⟩ := (matches_iff admissible).1 fits
      rw [prod_fillOpen_standIns admissible isOpen] at product
      rw [← product, Nat.mul_div_cancel _ (Nat.pos_of_ne_zero known_ne)]

theorem matchPattern?_of_admissible
    (counted : elementCount? (standIns source pattern specialZero) =
      some (standIns source pattern specialZero).prod)
    (admissible : Admissible source pattern specialZero) :
    matchPattern? source total pattern specialZero =
      if -1 ∈ pattern then
        if (standIns source pattern specialZero).prod ≠ 0 ∧
            total % (standIns source pattern specialZero).prod = 0 then
          some (fillOpen pattern (standIns source pattern specialZero)
            (total / (standIns source pattern specialZero).prod))
        else none
      else if (standIns source pattern specialZero).prod = total then
        some (standIns source pattern specialZero)
      else none := by
  have asked : patternExtents? source pattern specialZero = some (standIns source pattern specialZero) :=
    patternExtents?_eq_some_iff.2 ⟨admissible, rfl⟩
  rw [matchPattern?, asked, Option.bind_eq_bind, Option.bind_some, counted]
  rfl

theorem matchPattern?_eq_some_iff
    (counted : elementCount? (standIns source pattern specialZero) =
      some (standIns source pattern specialZero).prod) :
    matchPattern? source source.prod pattern specialZero = some shape ↔
      OnlySolution source pattern specialZero shape := by
  by_cases admissible : Admissible source pattern specialZero
  · rw [matchPattern?_of_admissible counted admissible]
    by_cases isOpen : -1 ∈ pattern
    · rw [if_pos isOpen, onlySolution_iff_of_open admissible isOpen, Option.ite_none_right_eq_some,
        Option.some_inj]
    · rw [if_neg isOpen, onlySolution_iff_of_closed admissible isOpen, Option.ite_none_right_eq_some,
        Option.some_inj]
  · refine iff_of_false (fun asked => ?_) fun solution => admissible solution.admissible
    obtain ⟨extents, entries, _⟩ := Option.bind_eq_some_iff.1 asked
    exact admissible (patternExtents?_eq_some_iff.1 entries).1

/-- A reshape gives the only shape that matches its pattern and has the elements of the source.  Where
there is none, or more than one, it fails and names the source and the pattern.  The counts of elements
that it takes on the way must be sizes. -/
theorem reshape_solves
    (counts : ∀ front ∈ source.inits, front.prod < Size.bound)
    (patternCounts : ∀ front ∈ (standIns source pattern specialZero).inits, front.prod < Size.bound) :
    (∀ shape, reshape source pattern specialZero = .ok shape ↔
      OnlySolution source pattern specialZero shape) ∧
    ((∀ shape, ¬OnlySolution source pattern specialZero shape) →
      reshape source pattern specialZero = .error (.reshape source pattern)) := by
  have total : elementCount? source = some source.prod := Size.product?_of_prefixes counts
  have solved : ∀ shape, matchPattern? source source.prod pattern specialZero = some shape ↔
      OnlySolution source pattern specialZero shape :=
    fun _ => matchPattern?_eq_some_iff (Size.product?_of_prefixes patternCounts)
  cases asked : matchPattern? source source.prod pattern specialZero with
  | none =>
    have fails : reshape source pattern specialZero = .error (.reshape source pattern) := by
      simp only [reshape, total, asked]
    refine ⟨fun shape => ?_, fun _ => fails⟩
    rw [fails, ← solved shape, asked]
    simp
  | some result =>
    have gives : reshape source pattern specialZero = .ok result := by
      simp only [reshape, total, asked]
    refine ⟨fun shape => ?_, fun unsolved => absurd ((solved result).1 asked) (unsolved result)⟩
    rw [gives, ← solved shape, asked, Except.ok.injEq, Option.some_inj]

end Patterns

/-- The first extent is the source's, and the open entry takes what is left of the elements. -/
theorem reshape_solves_open :
    (∀ front ∈ List.inits [2, 3, 4], front.prod < Size.bound) ∧
      (∀ front ∈ (standIns [2, 3, 4] [0, -1] true).inits, front.prod < Size.bound) ∧
      OnlySolution [2, 3, 4] [0, -1] true [2, 12] := by
  have counts : ∀ front ∈ List.inits [2, 3, 4], front.prod < Size.bound := by decide
  have patternCounts : ∀ front ∈ (standIns [2, 3, 4] [0, -1] true).inits, front.prod < Size.bound := by
    decide
  have solves := reshape_solves counts patternCounts
  exact ⟨counts, patternCounts, (solves.1 [2, 12]).1 rfl⟩

/-- Without elements an open entry could be anything. -/
example : reshape [2, 0] [0, -1] false = .error (.reshape [2, 0] [0, -1]) := by
  decide

end Shape

end PartitionLowering
