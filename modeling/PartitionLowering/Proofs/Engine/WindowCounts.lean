import Mathlib.Data.Set.Card
import PartitionLowering.Proofs.Engine.Windows

/-!
Extents of windows as counts.  A window that slides along an axis starts after some number of strides: without
padding it has to end inside the input, and with padding to start there (`Window.placements`).  The extent is the
number of these places (`Window.encard_placements`), so it is no larger without padding than with it, grows
with the input and shrinks with longer strides.  Main statement: `Window.forward_counts`.
-/

set_option autoImplicit false

namespace PartitionLowering.Window

variable {op op' : String} {padMode : PadMode}
  {input kernel stride dilation input' stride' count count' : Nat}

/-- The numbers of strides after which a window is still placed. -/
def placements (input kernel stride dilation : Nat) : PadMode → Set Nat
  | .valid => {steps | steps * stride + reach kernel dilation ≤ input}
  | .sameUpper => {steps | steps * stride < input}

theorem exists_error_iff :
    (∃ error, forward op input kernel stride dilation padMode = .error error) ↔
      stride = 0 ∨ dilation = 0 ∨ padMode = .valid ∧ input < reach kernel dilation := by
  rw [forward.eq_def]
  by_cases still : stride = 0 ∨ dilation = 0
  · simp [still, ← or_assoc]
  · rw [if_neg still, ← or_assoc, or_iff_right still]
    cases padMode with
    | sameUpper => simp
    | valid => by_cases short : input < reach kernel dilation <;> simp [short]

/-- A window is placed after each number of strides below the extent and after no other. -/
theorem placements_of_forward (fits : forward op input kernel stride dilation padMode = .ok count) :
    placements input kernel stride dilation padMode = {steps | steps < count} := by
  obtain ⟨⟨moves, _, short⟩, rfl⟩ := forward_eq_ok.1 fits
  ext steps
  cases padMode with
  | sameUpper =>
    have covers : input ⌈/⌉ stride ≤ steps ↔ input ≤ stride * steps := ceilDiv_le_iff_le_mul moves
    rw [Nat.mul_comm] at covers
    simp only [placements, positions, Set.mem_ofPred_eq]
    omega
  | valid =>
    have fit := short rfl
    have below := Nat.le_div_iff_mul_le moves (x := steps) (y := input - reach kernel dilation)
    simp only [placements, positions, Set.mem_ofPred_eq]
    omega

theorem encard_placements (fits : forward op input kernel stride dilation padMode = .ok count) :
    (placements input kernel stride dilation padMode).encard = count := by
  rw [placements_of_forward fits, Set.Nat.encard_range]

/-! ## Comparing extents -/

theorem le_of_subset {padMode' : PadMode} {kernel' dilation' : Nat}
    (fits : forward op input kernel stride dilation padMode = .ok count)
    (fits' : forward op' input' kernel' stride' dilation' padMode' = .ok count')
    (subset : placements input kernel stride dilation padMode ⊆
      placements input' kernel' stride' dilation' padMode') : count ≤ count' := by
  have counts := Set.encard_le_encard subset
  rw [encard_placements fits, encard_placements fits'] at counts
  exact_mod_cast counts

/-- A window that ends inside the input starts there. -/
theorem placements_valid_subset :
    placements input kernel stride dilation .valid ⊆ placements input kernel stride dilation .sameUpper := by
  intro steps ends
  simp only [placements, reach, Set.mem_ofPred_eq] at ends ⊢
  omega

/-- A window of one element ends where it starts. -/
theorem placements_of_reach_one (short : reach kernel dilation = 1) :
    placements input kernel stride dilation .valid = placements input kernel stride dilation .sameUpper := by
  simp only [placements, short, Nat.add_one_le_iff]

theorem placements_subset (longer : input ≤ input') (slower : stride' ≤ stride) :
    placements input kernel stride dilation padMode ⊆
      placements input' kernel stride' dilation padMode := by
  intro steps placed
  have start : steps * stride' ≤ steps * stride := Nat.mul_le_mul_left steps slower
  cases padMode with
  | sameUpper =>
    simp only [placements, Set.mem_ofPred_eq] at placed ⊢
    omega
  | valid =>
    simp only [placements, Set.mem_ofPred_eq] at placed ⊢
    omega

/-- A window has no extent exactly where it does not move, its taps do not stand apart or, without padding, it is
longer than the input; else the extent is the number of its places.  So there are at least as many with
padding as without, and just as many for a window of one element; a longer input gives no fewer
places, and a longer stride no more. -/
theorem forward_counts (op : String) (input kernel stride dilation : Nat) :
    (∀ padMode, (∃ error, forward op input kernel stride dilation padMode = .error error) ↔
      stride = 0 ∨ dilation = 0 ∨ padMode = .valid ∧ input < reach kernel dilation) ∧
    (∀ padMode count, forward op input kernel stride dilation padMode = .ok count →
      (placements input kernel stride dilation padMode).encard = count) ∧
    (∀ count count', forward op input kernel stride dilation .valid = .ok count →
      forward op input kernel stride dilation .sameUpper = .ok count' →
      count ≤ count' ∧ (reach kernel dilation = 1 → count = count')) ∧
    ∀ padMode input' stride' count count',
      forward op input kernel stride dilation padMode = .ok count →
      forward op input' kernel stride' dilation padMode = .ok count' →
      input ≤ input' → stride' ≤ stride → count ≤ count' := by
  refine ⟨fun _ => exists_error_iff, fun _ _ => encard_placements, ?_, ?_⟩
  · intro count count' fits fits'
    refine ⟨le_of_subset fits fits' placements_valid_subset, fun short => ?_⟩
    have same : placements input kernel stride dilation .valid =
        placements input kernel stride dilation .sameUpper := placements_of_reach_one short
    exact Nat.le_antisymm (le_of_subset fits fits' same.subset) (le_of_subset fits' fits same.superset)
  · intro padMode input' stride' count count' fits fits' longer slower
    exact le_of_subset fits fits' (placements_subset longer slower)

/-- Seven elements have three windows of three with strides of two, one more where the last one may be padded, and
nine elements have seven such windows next to each other. -/
theorem forward_counts_seven :
    forward "MaxPool" 7 3 2 1 .valid = .ok 3 ∧ forward "MaxPool" 7 3 2 1 .sameUpper = .ok 4 ∧
      forward "MaxPool" 9 3 1 1 .valid = .ok 7 ∧
      (placements 7 3 2 1 .valid).encard = (3 : Nat) ∧ 3 ≤ 4 ∧ 3 ≤ 7 ∧
      ∃ error, forward "MaxPool" 2 3 2 1 .valid = .error error := by
  obtain ⟨_, counts, compares, grows⟩ := forward_counts "MaxPool" 7 3 2 1
  have three : forward "MaxPool" 7 3 2 1 .valid = .ok 3 := by decide
  have four : forward "MaxPool" 7 3 2 1 .sameUpper = .ok 4 := by decide
  have seven : forward "MaxPool" 9 3 1 1 .valid = .ok 7 := by decide
  have short : ∃ error, forward "MaxPool" 2 3 2 1 .valid = .error error :=
    ((forward_counts "MaxPool" 2 3 2 1).1 .valid).2 (.inr (.inr ⟨rfl, by decide⟩))
  exact ⟨three, four, seven, counts _ _ three, (compares _ _ three four).1,
    grows _ _ _ _ _ three seven (by decide) (by decide), short⟩

end PartitionLowering.Window
