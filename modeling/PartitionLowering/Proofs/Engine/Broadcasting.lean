import PartitionLowering.Proofs.Engine.Layouts
import PartitionLowering.Proofs.Host.Reference

/-!
Broadcasting.  The engine's rule is the host's (`broadcast?_eq_host`), and it goes through with padding
to rank four and with the move of the channels (`broadcast?_engineShape`).
-/

set_option autoImplicit false

namespace PartitionLowering.Shape

theorem broadcast_eq_ok {lhs rhs joined : Shape} :
    broadcast lhs rhs = .ok joined ↔ broadcast? lhs rhs = some joined := by
  rw [broadcast]
  cases broadcast? lhs rhs <;> simp

/-! ## Lists of joined extents -/

def joinAll? (extents : List (Nat × Nat)) : Option Shape :=
  extents.mapM fun pair => joinExtents? pair.1 pair.2

theorem joinAll?_cons (pair : Nat × Nat) (rest : List (Nat × Nat)) :
    joinAll? (pair :: rest) =
      (joinExtents? pair.1 pair.2).bind fun extent => (joinAll? rest).map (extent :: ·) := by
  rw [joinAll?, List.mapM_cons, ← joinAll?]
  cases joinExtents? pair.1 pair.2 with
  | none => rfl
  | some extent => cases joinAll? rest <;> rfl

theorem joinAll?_append (first second : List (Nat × Nat)) :
    joinAll? (first ++ second) =
      (joinAll? first).bind fun front => (joinAll? second).map (front ++ ·) := by
  induction first with
  | nil =>
    have none_before : joinAll? [] = some [] := rfl
    simp [none_before]
  | cons pair rest ih =>
    rw [List.cons_append, joinAll?_cons, joinAll?_cons, ih]
    cases joinExtents? pair.1 pair.2 with
    | none => rfl
    | some extent =>
      cases joinAll? rest with
      | none => rfl
      | some front => cases joinAll? second <;> rfl

theorem joinAll?_reverse (extents : List (Nat × Nat)) :
    joinAll? extents.reverse = (joinAll? extents).map List.reverse := by
  induction extents with
  | nil => rfl
  | cons pair rest ih =>
    rw [List.reverse_cons, joinAll?_append, ih, joinAll?_cons pair rest, joinAll?_cons pair []]
    cases joinAll? rest with
    | none => cases joinExtents? pair.1 pair.2 <;> rfl
    | some front =>
      cases joinExtents? pair.1 pair.2 with
      | none => rfl
      | some extent => simp [joinAll?]

theorem length_of_joinAll? {extents : List (Nat × Nat)} {shape : Shape}
    (joined : joinAll? extents = some shape) : shape.length = extents.length := by
  induction extents generalizing shape with
  | nil =>
    cases joined
    rfl
  | cons pair rest ih =>
    rw [joinAll?_cons] at joined
    cases first : joinExtents? pair.1 pair.2 with
    | none => simp [first] at joined
    | some extent =>
      cases tail : joinAll? rest with
      | none => simp [first, tail] at joined
      | some others =>
        have split : extent :: others = shape := by simpa [first, tail] using joined
        rw [← split, List.length_cons, ih tail, List.length_cons]

theorem broadcast?_eq (lhs rhs : Shape) :
    broadcast? lhs rhs =
      joinAll? ((padLeft (max lhs.length rhs.length) lhs).zip
        (padLeft (max lhs.length rhs.length) rhs)) :=
  rfl

theorem joinExtents?_comm (a b : Nat) : joinExtents? a b = joinExtents? b a := by
  by_cases same : a = b
  · rw [same]
  · have apart : ¬b = a := fun equal => same equal.symm
    rw [joinExtents?, joinExtents?, if_neg same, if_neg apart]
    by_cases one : a = 1
    · have other : ¬b = 1 := fun equal => apart (equal.trans one.symm)
      rw [if_pos one, if_neg other, if_pos one]
    · rw [if_neg one, if_neg one]

theorem broadcast?_comm (lhs rhs : Shape) : broadcast? lhs rhs = broadcast? rhs lhs := by
  rw [broadcast?_eq, broadcast?_eq, Nat.max_comm]
  generalize padLeft (max rhs.length lhs.length) lhs = first
  generalize padLeft (max rhs.length lhs.length) rhs = second
  induction first generalizing second with
  | nil => cases second <;> rfl
  | cons extent rest ih =>
    cases second with
    | nil => rfl
    | cons other others =>
      rw [List.zip_cons_cons, List.zip_cons_cons, joinAll?_cons, joinAll?_cons, ih, joinExtents?_comm]

/-! ## The host's rule -/

theorem joinExtents?_one_left (extent : Nat) : joinExtents? 1 extent = some extent := by
  rw [joinExtents?]
  by_cases same : 1 = extent
  · rw [if_pos same, same]
  · rw [if_neg same, if_pos rfl]

theorem joinExtents?_one_right (extent : Nat) : joinExtents? extent 1 = some extent := by
  rw [joinExtents?]
  by_cases same : extent = 1
  · rw [if_pos same]
  · rw [if_neg same, if_neg same, if_pos rfl]

theorem joinAll?_ones_left (shape : Shape) :
    joinAll? ((List.replicate shape.length 1).zip shape) = some shape := by
  induction shape with
  | nil => rfl
  | cons extent rest ih =>
    rw [List.length_cons, List.replicate_succ, List.zip_cons_cons, joinAll?_cons, ih,
      joinExtents?_one_left]
    rfl

theorem joinAll?_ones_right (shape : Shape) :
    joinAll? (shape.zip (List.replicate shape.length 1)) = some shape := by
  induction shape with
  | nil => rfl
  | cons extent rest ih =>
    rw [List.length_cons, List.replicate_succ, List.zip_cons_cons, joinAll?_cons, ih,
      joinExtents?_one_right]
    rfl

def padRight (rank : Nat) (shape : Shape) : Shape :=
  shape ++ List.replicate (rank - shape.length) 1

theorem padLeft_eq_reverse (rank : Nat) (shape : Shape) :
    padLeft rank shape = (padRight rank shape.reverse).reverse := by
  simp [padLeft, padRight]

theorem length_padRight {rank : Nat} {shape : Shape} (fits : shape.length ≤ rank) :
    (padRight rank shape).length = rank := by
  simp only [padRight, List.length_append, List.length_replicate]
  omega

theorem joinAll?_eq_host (lhs rhs : Shape) :
    joinAll? ((padRight (max lhs.length rhs.length) lhs).zip
      (padRight (max lhs.length rhs.length) rhs)) = Host.broadcastFromLast? lhs rhs := by
  induction lhs generalizing rhs with
  | nil =>
    have left : padRight (max ([] : Shape).length rhs.length) [] = List.replicate rhs.length 1 := by
      simp [padRight]
    have right : padRight (max ([] : Shape).length rhs.length) rhs = rhs := by simp [padRight]
    rw [left, right, joinAll?_ones_left]
    cases rhs <;> rfl
  | cons a lhs ih =>
    cases rhs with
    | nil =>
      have left : padRight (max (a :: lhs).length ([] : Shape).length) (a :: lhs) = a :: lhs := by
        simp [padRight]
      have right : padRight (max (a :: lhs).length ([] : Shape).length) [] =
          List.replicate (a :: lhs).length 1 := by
        simp [padRight]
      rw [left, right, joinAll?_ones_right]
      rfl
    | cons b rhs =>
      have rank : max (a :: lhs).length (b :: rhs).length = max lhs.length rhs.length + 1 := by
        simp only [List.length_cons]
        omega
      have left : padRight (max lhs.length rhs.length + 1) (a :: lhs) =
          a :: padRight (max lhs.length rhs.length) lhs := by
        simp [padRight]
      have right : padRight (max lhs.length rhs.length + 1) (b :: rhs) =
          b :: padRight (max lhs.length rhs.length) rhs := by
        simp [padRight]
      rw [rank, left, right, List.zip_cons_cons, joinAll?_cons, ih, Host.broadcastFromLast?,
        joinExtents?]
      by_cases same : a = b
      · simp [same]
      · by_cases one : b = 1
        · have other : ¬a = 1 := fun first => same (first.trans one.symm)
          simp [one, other]
        · by_cases first : a = 1
          · subst first
            simp [one, same]
          · simp [same, one, first]

theorem broadcast?_eq_host (lhs rhs : Shape) : broadcast? lhs rhs = Host.broadcast? lhs rhs := by
  have ranks : max lhs.length rhs.length = max lhs.reverse.length rhs.reverse.length := by simp
  have lengths : (padRight (max lhs.reverse.length rhs.reverse.length) lhs.reverse).length =
      (padRight (max lhs.reverse.length rhs.reverse.length) rhs.reverse).length := by
    rw [length_padRight (Nat.le_max_left _ _), length_padRight (Nat.le_max_right _ _)]
  rw [broadcast?_eq, ranks, padLeft_eq_reverse, padLeft_eq_reverse, Host.broadcast?,
    ← joinAll?_eq_host, ← joinAll?_reverse, List.zip_eq_zipWith, List.zip_eq_zipWith, List.reverse_zipWith lengths]

/-! ## The engine's layout -/

theorem broadcast?_padLeft {rank : Nat} {lhs rhs : Shape} (left : lhs.length ≤ rank)
    (right : rhs.length ≤ rank) :
    broadcast? (padLeft rank lhs) (padLeft rank rhs) = (broadcast? lhs rhs).map (padLeft rank) := by
  have low : max lhs.length rhs.length ≤ rank := Nat.max_le.2 ⟨left, right⟩
  have lhsLength := length_padLeft (Nat.le_max_left lhs.length rhs.length)
  have rhsLength := length_padLeft (Nat.le_max_right lhs.length rhs.length)
  have ones : joinAll? ((List.replicate (rank - max lhs.length rhs.length) 1).zip
      (List.replicate (rank - max lhs.length rhs.length) 1)) =
      some (List.replicate (rank - max lhs.length rhs.length) 1) := by
    have joined := joinAll?_ones_left (List.replicate (rank - max lhs.length rhs.length) 1)
    rwa [List.length_replicate] at joined
  rw [broadcast?_eq, length_padLeft left, length_padLeft right, Nat.max_self,
    padLeft_of_length (length_padLeft left), padLeft_of_length (length_padLeft right),
    padLeft_eq_append (Nat.le_max_left lhs.length rhs.length) low,
    padLeft_eq_append (Nat.le_max_right lhs.length rhs.length) low,
    List.zip_append (by simp), joinAll?_append, ones, broadcast?_eq]
  cases joined : joinAll? ((padLeft (max lhs.length rhs.length) lhs).zip
      (padLeft (max lhs.length rhs.length) rhs)) with
  | none => rfl
  | some shape =>
    have length := length_of_joinAll? joined
    rw [List.length_zip, lhsLength, rhsLength, Nat.min_self] at length
    have whole := padLeft_eq_append (Nat.le_of_eq length) low
    rw [padLeft_of_length length] at whole
    simp [whole]

theorem broadcast?_channelsFirst {lhs rhs : Shape} (left : lhs.length = 4) (right : rhs.length = 4) :
    broadcast? lhs.channelsFirst rhs.channelsFirst = (broadcast? lhs rhs).map channelsFirst := by
  obtain ⟨batch, height, width, channels, rfl⟩ := exists_image left
  obtain ⟨batch', height', width', channels', rfl⟩ := exists_image right
  have both : ∀ a b c d a' b' c' d' : Nat, broadcast? [a, b, c, d] [a', b', c', d'] =
      joinAll? [(a, a'), (b, b'), (c, c'), (d, d')] := fun _ _ _ _ _ _ _ _ => rfl
  have none_left : joinAll? [] = some [] := rfl
  simp only [channelsFirst, both, joinAll?_cons, none_left]
  cases joinExtents? batch batch' <;> cases joinExtents? height height' <;>
    cases joinExtents? width width' <;> cases joinExtents? channels channels' <;> rfl

theorem length_of_broadcast? {lhs rhs shape : Shape} (joined : broadcast? lhs rhs = some shape) :
    shape.length = max lhs.length rhs.length := by
  rw [broadcast?_eq] at joined
  rw [length_of_joinAll? joined, List.length_zip, length_padLeft (Nat.le_max_left _ _),
    length_padLeft (Nat.le_max_right _ _), Nat.min_self]

end PartitionLowering.Shape

namespace PartitionLowering.Layout

theorem broadcast?_engineShape {lhs rhs : Shape} (left : lhs.length ≤ 4) (right : rhs.length ≤ 4) :
    Shape.broadcast? (engineShape lhs) (engineShape rhs) =
      (Host.broadcast? lhs rhs).map engineShape := by
  rw [engineShape, engineShape,
    Shape.broadcast?_channelsFirst (Shape.length_padLeft left) (Shape.length_padLeft right),
    Shape.broadcast?_padLeft left right, Shape.broadcast?_eq_host, Option.map_map]
  rfl

/-- Against an engine image a shape is broadcast as if its second axis were the channels. -/
theorem broadcast?_unturned {image shape : Shape} (rank : image.length = 4) (low : shape.length ≤ 4) :
    Shape.broadcast? (engineShape image) shape =
      (Host.broadcast? image (Shape.padLeft 4 shape).channelsLast).map Shape.channelsFirst := by
  have engine : (engineShape image).length = 4 := length_engineShape (Nat.le_of_eq rank)
  have padded := Shape.broadcast?_padLeft (Nat.le_of_eq engine) low
  rw [Shape.padLeft_of_length engine] at padded
  -- the broadcast has four axes, so that there is nothing to pad
  have same : (Shape.broadcast? (engineShape image) shape).map (Shape.padLeft 4) =
      Shape.broadcast? (engineShape image) shape := by
    cases joined : Shape.broadcast? (engineShape image) shape with
    | none => rfl
    | some result =>
      have length := Shape.length_of_broadcast? joined
      have full : result.length = 4 := by omega
      rw [Option.map_some, Shape.padLeft_of_length full]
  have length : (Shape.padLeft 4 shape).channelsLast.length = 4 := by
    rw [Shape.length_channelsLast, Shape.length_padLeft low]
  rw [← same, ← padded, engineShape, Shape.padLeft_of_length rank, ← Shape.broadcast?_eq_host,
    ← Shape.broadcast?_channelsFirst rank length, Shape.channelsFirst_channelsLast]

theorem length_of_host_broadcast? {lhs rhs shape : Shape}
    (joined : Host.broadcast? lhs rhs = some shape) : shape.length = max lhs.length rhs.length := by
  rw [← Shape.broadcast?_eq_host] at joined
  exact Shape.length_of_broadcast? joined

end PartitionLowering.Layout
