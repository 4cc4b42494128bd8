import PartitionLowering.Proofs.Engine.Broadcasting
import PartitionLowering.Proofs.Engine.Extents

/-!
The laws of broadcasting.  Extents join in a partial commutative idempotent monoid with one as its neutral
element; so do shapes, extent by extent from their last axis on, with the empty shape as the neutral element.
Joining extents knows no axes, so that a broadcast goes through with every reordering of them
(`Shape.broadcast?_rearrange`).  Main statement: `Shape.broadcast_laws`.
-/

set_option autoImplicit false

namespace PartitionLowering.Shape

/-! ## Extents -/

theorem joinExtents?_self (extent : Nat) : joinExtents? extent extent = some extent :=
  if_pos rfl

theorem joinExtents?_of_ne_one {a b : Nat} (left : a ≠ 1) (right : b ≠ 1) :
    joinExtents? a b = if a = b then some a else none := by
  rw [joinExtents?, if_neg left, if_neg right]

theorem joinExtents?_assoc (a b c : Nat) :
    ((joinExtents? a b).bind fun joined => joinExtents? joined c) =
      (joinExtents? b c).bind fun joined => joinExtents? a joined := by
  by_cases first : a = 1
  · rw [first, joinExtents?_one_left, Option.bind_some]
    simp only [joinExtents?_one_left, Option.bind_fun_some]
  by_cases second : b = 1
  · rw [second, joinExtents?_one_right, joinExtents?_one_left, Option.bind_some, Option.bind_some]
  by_cases third : c = 1
  · rw [third, joinExtents?_one_right, Option.bind_some]
    simp only [joinExtents?_one_right, Option.bind_fun_some]
  -- no extent gives way, so that all three have to be one
  rw [joinExtents?_of_ne_one first second, joinExtents?_of_ne_one second third]
  by_cases same : a = b
  · rw [if_pos same, Option.bind_some, ← same, joinExtents?_of_ne_one first third]
    by_cases same' : a = c
    · rw [if_pos same', Option.bind_some, joinExtents?_self]
    · rw [if_neg same', Option.bind_none]
  · rw [if_neg same, Option.bind_none]
    by_cases same' : b = c
    · rw [if_pos same', Option.bind_some, joinExtents?_of_ne_one first second, if_neg same]
    · rw [if_neg same', Option.bind_none]

/-! ## Shapes from their last axis on -/

section FromLast

open Host (broadcastFromLast?)

theorem broadcastFromLast?_nil_left (shape : Shape) : broadcastFromLast? [] shape = some shape := by
  cases shape <;> rfl

theorem broadcastFromLast?_nil_right (shape : Shape) : broadcastFromLast? shape [] = some shape := by
  cases shape <;> rfl

theorem broadcastFromLast?_cons (a b : Nat) (lhs rhs : Shape) :
    broadcastFromLast? (a :: lhs) (b :: rhs) =
      (joinExtents? a b).bind fun joined => (broadcastFromLast? lhs rhs).map (joined :: ·) := by
  rw [broadcastFromLast?, joinExtents?]
  by_cases same : a = b
  · simp [same]
  by_cases right : b = 1
  · have left : a ≠ 1 := fun one => same (one.trans right.symm)
    simp [left, right]
  by_cases left : a = 1
  · subst left
    simp [right, Ne.symm right]
  · simp [same, left, right]

theorem broadcastFromLast?_self (shape : Shape) : broadcastFromLast? shape shape = some shape := by
  induction shape with
  | nil => rfl
  | cons extent rest ih =>
    rw [broadcastFromLast?_cons, joinExtents?_self, Option.bind_some, ih, Option.map_some]

/-- A step that treats the first extent and the rest by themselves may follow each of the two. -/
theorem bind_cons_of_splits {first : Nat → Option Nat} {later whole : Shape → Option Shape}
    (splits : ∀ extent rest,
      whole (extent :: rest) = (first extent).bind fun extent' => (later rest).map (extent' :: ·))
    (extent? : Option Nat) (rest? : Option Shape) :
    ((extent?.bind fun extent => rest?.map (extent :: ·)).bind whole) =
      (extent?.bind first).bind fun extent => (rest?.bind later).map (extent :: ·) := by
  cases extent? with
  | none => rfl
  | some extent =>
    cases rest? with
    | none => exact (Option.bind_fun_none (first extent)).symm
    | some rest => exact splits extent rest

theorem broadcastFromLast?_assoc (a b c : Shape) :
    ((broadcastFromLast? a b).bind fun joined => broadcastFromLast? joined c) =
      (broadcastFromLast? b c).bind fun joined => broadcastFromLast? a joined := by
  induction a generalizing b c with
  | nil =>
    simp only [broadcastFromLast?_nil_left, Option.bind_some, Option.bind_fun_some]
  | cons extent a ih =>
    cases b with
    | nil =>
      rw [broadcastFromLast?_nil_right, broadcastFromLast?_nil_left, Option.bind_some, Option.bind_some]
    | cons extent' b =>
      cases c with
      | nil => simp only [broadcastFromLast?_nil_right, Option.bind_some, Option.bind_fun_some]
      | cons extent'' c =>
        rw [broadcastFromLast?_cons, broadcastFromLast?_cons,
          bind_cons_of_splits fun joined rest => broadcastFromLast?_cons joined extent'' rest c,
          bind_cons_of_splits fun joined rest => broadcastFromLast?_cons extent joined a rest,
          joinExtents?_assoc, ih]

end FromLast

/-! ## Shapes -/

theorem broadcast?_self (shape : Shape) : broadcast? shape shape = some shape := by
  rw [broadcast?_eq_host, Host.broadcast?, broadcastFromLast?_self, Option.map_some, List.reverse_reverse]

theorem broadcast?_nil (shape : Shape) : broadcast? shape [] = some shape := by
  rw [broadcast?_eq_host, Host.broadcast?, List.reverse_nil, broadcastFromLast?_nil_right, Option.map_some,
    List.reverse_reverse]

theorem broadcast?_assoc (a b c : Shape) :
    ((broadcast? a b).bind fun joined => broadcast? joined c) =
      (broadcast? b c).bind fun joined => broadcast? a joined := by
  have fromLast := congrArg (Option.map List.reverse) (broadcastFromLast?_assoc a.reverse b.reverse c.reverse)
  simp only [Option.map_bind] at fromLast
  simp only [broadcast?_eq_host, Host.broadcast?, Option.bind_map, Function.comp_def, List.reverse_reverse]
  exact fromLast

/-! ## Reordered axes -/

def joinedExtent (pair : Nat × Nat) : Nat :=
  (joinExtents? pair.1 pair.2).getD 0

theorem joinAll?_eq (extents : List (Nat × Nat)) :
    joinAll? extents =
      if ∀ pair ∈ extents, (joinExtents? pair.1 pair.2).isSome then some (extents.map joinedExtent)
      else none := by
  induction extents with
  | nil => rfl
  | cons pair rest ih =>
    rw [joinAll?_cons, ih]
    simp only [List.forall_mem_cons, List.map_cons]
    cases joined : joinExtents? pair.1 pair.2 with
    | none => simp
    | some extent =>
      by_cases fits : ∀ other ∈ rest, (joinExtents? other.1 other.2).isSome
      · rw [if_pos fits, if_pos ⟨rfl, fits⟩, Option.bind_some, Option.map_some, joinedExtent, joined,
          Option.getD_some]
      · rw [if_neg fits, if_neg fun both => fits both.2, Option.bind_some, Option.map_none]

/-- Pairs that are reordered join to the same extents in the new order. -/
theorem joinAll?_rearrange {extents : List (Nat × Nat)} {order : List Int}
    (permutes : IsPermutation order extents.length) :
    joinAll? (rearrange order (0, 0) extents) = (joinAll? extents).map (rearrange order 0) := by
  have members : ∀ pair, pair ∈ rearrange order (0, 0) extents ↔ pair ∈ extents := fun _ =>
    (perm_rearrange (0, 0) permutes).mem_iff
  have joined : (rearrange order (0, 0) extents).map joinedExtent =
      rearrange order 0 (extents.map joinedExtent) := by
    rw [rearrange, rearrange, List.map_map]
    apply List.map_congr_left
    intro axis _
    rw [List.getD_eq_getElem?_getD, List.getElem?_map, Function.comp_apply, List.getD_eq_getElem?_getD]
    exact (Option.getD_map joinedExtent (0, 0) _).symm
  rw [joinAll?_eq, joinAll?_eq, joined]
  simp only [members]
  by_cases fits : ∀ pair ∈ extents, (joinExtents? pair.1 pair.2).isSome
  · rw [if_pos fits, if_pos fits, Option.map_some]
  · rw [if_neg fits, if_neg fits, Option.map_none]

/-- Shapes of one rank that are reordered alike broadcast to what they broadcast to, reordered. -/
theorem broadcast?_rearrange {lhs rhs : Shape} {order : List Int}
    (permutes : IsPermutation order lhs.length) (same : rhs.length = lhs.length) :
    broadcast? (rearrange order 0 lhs) (rearrange order 0 rhs) =
      (broadcast? lhs rhs).map (rearrange order 0) := by
  have plain : ∀ {first second : Shape}, second.length = first.length →
      broadcast? first second = joinAll? (first.zip second) := by
    intro first second equal
    rw [broadcast?_eq, equal, Nat.max_self, padLeft_of_length rfl, padLeft_of_length equal]
  have pairs : (rearrange order 0 lhs).zip (rearrange order 0 rhs) =
      rearrange order (0, 0) (lhs.zip rhs) := by
    rw [rearrange, rearrange, rearrange, List.zip_map']
    apply List.map_congr_left
    intro axis _
    by_cases below : axis.toNat < lhs.length
    · simp [below, same]
    · simp [below, same]
  have length : (lhs.zip rhs).length = lhs.length := by rw [List.length_zip, same, Nat.min_self]
  rw [plain same, plain (by simp [rearrange]), pairs, joinAll?_rearrange (length ▸ permutes)]

/-! ## Answers and errors -/

theorem toOption_broadcast (lhs rhs : Shape) : (broadcast lhs rhs).toOption = broadcast? lhs rhs := by
  rw [broadcast]
  cases broadcast? lhs rhs <;> rfl

theorem toOption_broadcast_bind (lhs rhs : Shape) (next : Shape → Except ShapeError Shape) :
    (broadcast lhs rhs >>= next).toOption =
      (broadcast? lhs rhs).bind fun joined => (next joined).toOption := by
  rw [broadcast]
  cases broadcast? lhs rhs <;> rfl

/-- Broadcasting is idempotent, has the empty shape as its neutral element, is commutative and associative
as far as it is defined, and goes through with every permutation of the axes of two shapes of one rank. -/
theorem broadcast_laws (a b c : Shape) :
    broadcast a a = .ok a ∧ broadcast a [] = .ok a ∧
      (broadcast a b).toOption = (broadcast b a).toOption ∧
      (broadcast a b >>= fun joined => broadcast joined c).toOption =
        (broadcast b c >>= fun joined => broadcast a joined).toOption ∧
      ∀ (order : List Int) (rank : Nat), order.Perm ((List.range rank).map Int.ofNat) →
        a.length = rank → b.length = rank →
        ∃ a' b', permute a order = .ok a' ∧ permute b order = .ok b' ∧
          ((broadcast a' b').isOk ↔ (broadcast a b).isOk) ∧
          ∀ joined, broadcast a b = .ok joined →
            ∃ turned, permute joined order = .ok turned ∧ broadcast a' b' = .ok turned := by
  refine ⟨broadcast_eq_ok.2 (broadcast?_self a), broadcast_eq_ok.2 (broadcast?_nil a), ?_, ?_, ?_⟩
  · rw [toOption_broadcast, toOption_broadcast, broadcast?_comm]
  · simp only [toOption_broadcast_bind, toOption_broadcast]
    exact broadcast?_assoc a b c
  · rintro order _ perm rfl same
    have permutes := isPermutation_iff_perm.2 perm
    have turned := broadcast?_rearrange permutes same
    refine ⟨rearrange order 0 a, rearrange order 0 b, permute_of_isPermutation permutes,
      permute_of_isPermutation (same ▸ permutes), ?_, ?_⟩
    · rw [broadcast, broadcast, turned]
      cases broadcast? a b <;> simp [Except.isOk, Except.toBool]
    · intro joined joins
      rw [broadcast_eq_ok] at joins
      have rank : joined.length = a.length := by
        rw [length_of_broadcast? joins, same, Nat.max_self]
      refine ⟨rearrange order 0 joined, permute_of_isPermutation (rank ▸ permutes), broadcast_eq_ok.2 ?_⟩
      rw [turned, joins, Option.map_some]

theorem broadcast_laws_image :
    [2, 0, 1].Perm ((List.range 3).map Int.ofNat) ∧
      ∃ a' b' joined turned, permute [4, 1, 3] [2, 0, 1] = .ok a' ∧ permute [1, 5, 3] [2, 0, 1] = .ok b' ∧
        broadcast [4, 1, 3] [1, 5, 3] = .ok joined ∧ permute joined [2, 0, 1] = .ok turned ∧
        broadcast a' b' = .ok turned ∧ turned = [3, 4, 5] := by
  obtain ⟨_, _, _, _, reordered⟩ := broadcast_laws [4, 1, 3] [1, 5, 3] []
  have perm : [2, 0, 1].Perm ((List.range 3).map Int.ofNat) := by decide
  obtain ⟨a', b', first, second, _, turns⟩ := reordered [2, 0, 1] 3 perm rfl rfl
  obtain ⟨turned, third, joins⟩ := turns [4, 5, 3] (by decide)
  have shown : turned = [3, 4, 5] := by
    cases third
    rfl
  exact ⟨perm, a', b', [4, 5, 3], turned, first, second, by decide, third, joins, shown⟩

end PartitionLowering.Shape
