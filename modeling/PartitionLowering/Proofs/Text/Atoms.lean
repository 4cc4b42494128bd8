import Mathlib.Data.List.Basic
import PartitionLowering.Decimal.Style
import PartitionLowering.Text.Listing

/-!
Atoms of a text and the stops between them.  A number, a name or a label is an atom: no blank, comma,
bracket or line end is in it.  Where a stop stands behind it, an atom is told apart from all that follows
(`atom_append`), and so is a listing of atoms in front of a stop that is no comma
(`Legible.listing_append`).
-/

set_option autoImplicit false

namespace PartitionLowering

def isStop (c : Char) : Bool :=
  [' ', ',', '[', ']', '(', ')', '\n'].contains c

def Atom (text : List Char) : Prop :=
  ∀ c ∈ text, isStop c = false

instance (text : List Char) : Decidable (Atom text) :=
  inferInstanceAs (Decidable (∀ c ∈ text, isStop c = false))

def Stops (text : List Char) : Prop :=
  ∃ c rest, text = c :: rest ∧ isStop c = true

/-- A stop stands in front, and no comma, so that a listing before it has ended. -/
def Closes (text : List Char) : Prop :=
  ∃ c rest, text = c :: rest ∧ isStop c = true ∧ c ≠ ','

theorem stops_cons {c : Char} (stop : isStop c = true) (rest : List Char) : Stops (c :: rest) :=
  ⟨c, rest, rfl, stop⟩

theorem closes_cons {c : Char} (stop : isStop c = true) (other : c ≠ ',') (rest : List Char) :
    Closes (c :: rest) :=
  ⟨c, rest, rfl, stop, other⟩

theorem Closes.stops {text : List Char} (closes : Closes text) : Stops text := by
  obtain ⟨c, rest, rfl, stop, _⟩ := closes
  exact stops_cons stop rest

theorem Atom.append {text more : List Char} (atom : Atom text) (atom' : Atom more) :
    Atom (text ++ more) :=
  List.forall_mem_append.2 ⟨atom, atom'⟩

section Separation

variable {text text' rest rest' : List Char}

/-- What is left of a text when its atom in front is taken off. -/
theorem takeWhile_atom (atom : Atom text) (stops : Stops rest) :
    (text ++ rest).takeWhile (fun c => !isStop c) = text := by
  obtain ⟨c, tail, rfl, stop⟩ := stops
  have front : ∀ c ∈ text, (!isStop c) = true := fun c member => by simp [atom c member]
  rw [List.takeWhile_append_of_pos front, List.takeWhile_cons_of_neg (by simp [stop]),
    List.append_nil]

theorem atom_append (same : text ++ rest = text' ++ rest') (atom : Atom text) (atom' : Atom text')
    (stops : Stops rest) (stops' : Stops rest') : text = text' ∧ rest = rest' := by
  have front : text = text' := by
    rw [← takeWhile_atom atom stops, same, takeWhile_atom atom' stops']
  subst front
  exact ⟨rfl, List.append_cancel_left same⟩

end Separation

/-! ## Ways of writing -/

/-- Values that are written as atoms, no two of them alike. -/
structure Legible {α : Type} (write : α → String) : Prop where
  atom : ∀ value, Atom (write value).toList
  injective : Function.Injective write

namespace Legible

variable {α : Type} {write : α → String} (legible : Legible write) {rest rest' : List Char}

include legible

theorem append {value value' : α} (same : (write value).toList ++ rest = (write value').toList ++ rest')
    (stops : Stops rest) (stops' : Stops rest') : value = value' ∧ rest = rest' := by
  obtain ⟨texts, rests⟩ :=
    atom_append same (legible.atom value) (legible.atom value') stops stops'
  exact ⟨legible.injective (String.toList_inj.1 texts), rests⟩

omit legible in
theorem stops_items (items : List α) (closes : Closes rest) :
    Stops (items.flatMap (fun item => ',' :: ' ' :: (write item).toList) ++ rest) := by
  cases items with
  | nil => exact closes.stops
  | cons item items => exact stops_cons rfl _

/-- The items behind the first one, each behind a comma and a blank. -/
theorem items_append {items items' : List α}
    (same : items.flatMap (fun item => ',' :: ' ' :: (write item).toList) ++ rest =
      items'.flatMap (fun item => ',' :: ' ' :: (write item).toList) ++ rest')
    (closes : Closes rest) (closes' : Closes rest') : items = items' ∧ rest = rest' := by
  induction items generalizing items' with
  | nil =>
    cases items' with
    | nil => exact ⟨rfl, same⟩
    | cons item' items' =>
      obtain ⟨c, tail, rfl, _, other⟩ := closes
      exact absurd (List.cons.inj same).1 other
  | cons item items ih =>
    cases items' with
    | nil =>
      obtain ⟨c, tail, rfl, _, other⟩ := closes'
      exact absurd (List.cons.inj same).1.symm other
    | cons item' items' =>
      simp only [List.flatMap_cons, List.cons_append, List.append_assoc, List.cons.injEq,
        true_and] at same
      obtain ⟨rfl, later⟩ :=
        legible.append same (stops_items items closes) (stops_items items' closes')
      obtain ⟨rfl, rests⟩ := ih later
      exact ⟨rfl, rests⟩

omit legible in
theorem toList_commaSeparated_cons (item : α) (items : List α) :
    (commaSeparated ((item :: items).map write)).toList =
      (write item).toList ++ items.flatMap fun item => ',' :: ' ' :: (write item).toList := by
  induction items generalizing item with
  | nil => simp [commaSeparated]
  | cons next items ih =>
    have later := ih next
    simp only [commaSeparated, String.toList_intercalate, List.map_cons,
      List.intercalate_cons_cons] at later ⊢
    rw [later]
    simp

theorem listing_append {items items' : List α}
    (same : (commaSeparated (items.map write)).toList ++ rest =
      (commaSeparated (items'.map write)).toList ++ rest')
    (visible : ∀ value, write value ≠ "") (closes : Closes rest) (closes' : Closes rest') :
    items = items' ∧ rest = rest' := by
  -- a listing of no items shows the stop behind it, any other one an atom
  have clash : ∀ (item : α) (items : List α) {rest rest' : List Char}, Closes rest' →
      (commaSeparated ((item :: items).map write)).toList ++ rest = rest' → False := by
    intro item items rest rest' closes' same
    obtain ⟨c, tail, rfl, stop, _⟩ := closes'
    rw [toList_commaSeparated_cons] at same
    cases shown : (write item).toList with
    | nil => exact visible item (String.toList_inj.1 shown)
    | cons first others =>
      have plain := legible.atom item first (by simp [shown])
      rw [shown] at same
      rw [(List.cons.inj same).1, stop] at plain
      cases plain
  cases items with
  | nil =>
    cases items' with
    | nil => exact ⟨rfl, List.append_cancel_left same⟩
    | cons item' items' => exact (clash item' items' closes same.symm).elim
  | cons item items =>
    cases items' with
    | nil => exact (clash item items closes' same).elim
    | cons item' items' =>
      rw [toList_commaSeparated_cons, toList_commaSeparated_cons, List.append_assoc,
        List.append_assoc] at same
      obtain ⟨rfl, later⟩ :=
        legible.append same (stops_items items closes) (stops_items items' closes')
      obtain ⟨rfl, rests⟩ := legible.items_append later closes closes'
      exact ⟨rfl, rests⟩

end Legible

/-! ## Numbers -/

theorem isStop_of_isDigit {c : Char} (digit : c.isDigit = true) : isStop c = false := by
  have apart : ∀ stop ∈ [' ', ',', '[', ']', '(', ')', '\n'], stop.isDigit = false := by
    simp
  by_contra stop
  have member := List.contains_iff_mem.1 (Bool.not_eq_false _ ▸ stop)
  rw [apart c member] at digit
  cases digit

theorem atom_toDigits (value : Nat) : Atom (Nat.toDigits 10 value) := fun _ member =>
  isStop_of_isDigit (Nat.isDigit_of_mem_toDigits (by decide) (by decide) member)

theorem atom_minus : Atom ['-'] := by
  simp [Atom, isStop]

theorem toDigits_injective : Function.Injective (Nat.toDigits 10) :=
  Function.LeftInverse.injective fun _ => Nat.ofDigitChars_ten_toDigits

theorem legible_nat : Legible (toString : Nat → String) where
  atom value := by
    rw [Nat.toString_eq_repr, Nat.toList_repr]
    exact atom_toDigits value
  injective value value' same := by
    have digits := congrArg String.toList same
    simp only [Nat.toString_eq_repr, Nat.toList_repr] at digits
    exact toDigits_injective digits

theorem nat_visible (value : Nat) : toString value ≠ "" := by
  intro empty
  have digits := congrArg String.toList empty
  rw [Nat.toString_eq_repr, Nat.toList_repr] at digits
  exact Nat.toDigits_ne_nil digits

theorem legible_bool : Legible (toString : Bool → String) where
  atom value := by cases value <;> simp [Atom, isStop, toString]
  injective value value' same := by revert value value'; decide

namespace Numeral

theorem atom_signChars (negative : Bool) : Atom (signChars negative) := by
  cases negative with
  | true => exact atom_minus
  | false => exact fun _ member => absurd member List.not_mem_nil

theorem atom_integerChars (value : Int) : Atom (integerChars value) :=
  (atom_signChars _).append (atom_toDigits _)

theorem mem_integerChars_minus (value : Int) : '-' ∈ integerChars value ↔ value < 0 := by
  have digits : '-' ∉ naturalChars value.natAbs := fun member =>
    absurd (Nat.isDigit_of_mem_toDigits (by decide) (by decide) member) (by decide)
  by_cases below : value < 0 <;> simp [integerChars, signChars, below, digits]

theorem integerChars_injective : Function.Injective integerChars := by
  intro value value' same
  have sign : value < 0 ↔ value' < 0 := by
    rw [← mem_integerChars_minus, same, mem_integerChars_minus]
  simp only [integerChars, sign] at same
  have magnitude : value.natAbs = value'.natAbs := toDigits_injective (List.append_cancel_left same)
  omega

theorem atom_fractionChars (fraction : List Digit) : Atom (fractionChars fraction) := by
  cases fraction with
  | nil => exact fun _ member => absurd member List.not_mem_nil
  | cons first others =>
    intro c member
    rcases List.mem_cons.1 member with rfl | digit
    · simp [isStop]
    · obtain ⟨digit, _, rfl⟩ := List.mem_map.1 digit
      exact isStop_of_isDigit (by simp [Digit.toChar])

theorem atom_exponentChars (exponent : Option Int) : Atom (exponentChars exponent) := by
  cases exponent with
  | none => exact fun _ member => absurd member List.not_mem_nil
  | some power =>
    intro c member
    rcases List.mem_cons.1 member with rfl | later
    · simp [isStop]
    · exact atom_integerChars power c later

theorem atom_text (numeral : Numeral) : Atom numeral.text.toList := by
  rw [Numeral.text, String.toList_ofList]
  exact (((atom_signChars _).append (atom_toDigits _)).append (atom_fractionChars _)).append
    (atom_exponentChars _)

end Numeral

theorem legible_int : Legible (toString : Int → String) where
  atom value := by
    rw [Numeral.toList_toString]
    exact Numeral.atom_integerChars value
  injective value value' same := by
    have chars := congrArg String.toList same
    rw [Numeral.toList_toString, Numeral.toList_toString] at chars
    exact Numeral.integerChars_injective chars

theorem Style.atom_text (style : Style) (format : BinaryFormat) (bits : Nat) :
    Atom (style.text format bits).toList := by
  rw [Style.text]
  split
  · exact Numeral.atom_text _
  · split <;> simp [Atom, isStop]
  · simp [Atom, isStop]

end PartitionLowering
