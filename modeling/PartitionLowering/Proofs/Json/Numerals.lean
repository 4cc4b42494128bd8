import PartitionLowering.Json.Reader

/-!
Written numerals read back.  A numeral is read as far as its text goes on, so each part comes back
only in front of a text that cannot continue it: `numeral?_chars` is about a numeral before a comma,
a closing bracket, a closing brace or the end, the places where a written value stops.
-/

set_option autoImplicit false

namespace PartitionLowering.Json.Reader

def StopsDigits (cs : List Char) : Prop :=
  ∀ c ∈ cs.head?, c.isDigit = false

/-- What stands behind a written value: the end, or a character that closes or separates. -/
def Delimited (cs : List Char) : Prop :=
  ∀ c ∈ cs.head?, c = ',' ∨ c = ']' ∨ c = '\x7d'

@[simp] theorem delimited_nil : Delimited [] := by
  simp [Delimited]

theorem delimited_cons {c : Char} (cs : List Char) (closes : c = ',' ∨ c = ']' ∨ c = '\x7d') :
    Delimited (c :: cs) := by
  simpa [Delimited] using closes

/-! ## Digits -/

theorem digits?_append {digits rest : List Char} (nonempty : digits ≠ [])
    (all : ∀ c ∈ digits, c.isDigit = true) (stops : StopsDigits rest) :
    digits? (digits ++ rest) = some (digits, rest) := by
  have front : rest.takeWhile Char.isDigit = [] := by
    cases rest with
    | nil => rfl
    | cons c tail => simp [stops c rfl]
  have back : rest.dropWhile Char.isDigit = rest := by
    cases rest with
    | nil => rfl
    | cons c tail => simp [stops c rfl]
  rw [digits?, List.takeWhile_append_of_pos all, List.dropWhile_append_of_pos all, front, back,
    List.append_nil]
  cases digits with
  | nil => exact absurd rfl nonempty
  | cons _ _ => rfl

theorem digits?_naturalChars (value : Nat) {rest : List Char} (stops : StopsDigits rest) :
    digits? (Numeral.naturalChars value ++ rest) = some (Numeral.naturalChars value, rest) :=
  digits?_append Nat.toDigits_ne_nil
    (fun _ member => Nat.isDigit_of_mem_toDigits (by decide) (by decide) member) stops

theorem isDigit_toChar (digit : Digit) : digit.toChar.isDigit = true := by
  revert digit
  decide

theorem ofChar?_toChar (digit : Digit) : Digit.ofChar? digit.toChar = some digit := by
  revert digit
  decide

theorem exists_naturalChars (value : Nat) :
    ∃ c cs, Numeral.naturalChars value = c :: cs ∧ c.isDigit = true := by
  obtain ⟨c, cs, split⟩ := List.exists_cons_of_ne_nil
    (Nat.toDigits_ne_nil (n := value) (b := 10))
  exact ⟨c, cs, split, Nat.isDigit_of_mem_toDigits (by decide) (by decide)
    (split ▸ List.mem_cons_self)⟩

/-- Only zero is written with a zero in front. -/
theorem head?_naturalChars {value : Nat} (positive : 0 < value) :
    (Numeral.naturalChars value).head? ≠ some '0' := by
  induction value using Nat.strongRecOn with
  | ind value ih =>
    by_cases small : value < 10
    · rw [Numeral.naturalChars, Nat.toDigits_of_lt_base small]
      simpa [Nat.digitChar_eq_zero] using Nat.ne_of_gt positive
    · -- The first digit is the first digit of the tenth part.
      obtain ⟨c, cs, split, -⟩ := exists_naturalChars (value / 10)
      have tenth := ih (value / 10) (by omega) (by omega)
      rw [split] at tenth
      rw [Numeral.naturalChars, Nat.toDigits_of_base_le (by decide) (Nat.le_of_not_lt small)]
      rw [Numeral.naturalChars] at split
      simpa [split] using tenth

/-! ## The parts of a numeral -/

theorem sign_digit {c : Char} (cs : List Char) (digit : c.isDigit = true) :
    sign (c :: cs) = (false, c :: cs) := by
  have noSign : c ≠ '-' := by rintro rfl; exact absurd digit (by decide)
  simp [sign, noSign]

theorem sign_append (negative : Bool) (value : Nat) (rest : List Char) :
    sign (Numeral.signChars negative ++ (Numeral.naturalChars value ++ rest)) =
      (negative, Numeral.naturalChars value ++ rest) := by
  cases negative with
  | true => rfl
  | false =>
    obtain ⟨c, cs, split, digit⟩ := exists_naturalChars value
    simpa [Numeral.signChars, split] using sign_digit (cs ++ rest) digit

theorem exponentSign_append (negative : Bool) (value : Nat) (rest : List Char) :
    exponentSign (Numeral.signChars negative ++ (Numeral.naturalChars value ++ rest)) =
      (negative, Numeral.naturalChars value ++ rest) := by
  cases negative with
  | true => rfl
  | false =>
    obtain ⟨c, cs, split, digit⟩ := exists_naturalChars value
    have noPlus : c ≠ '+' := by rintro rfl; exact absurd digit (by decide)
    simpa [Numeral.signChars, split, exponentSign, noPlus] using sign_digit (cs ++ rest) digit

theorem whole?_append (value : Nat) {rest : List Char} (stops : StopsDigits rest) :
    whole? (Numeral.naturalChars value ++ rest) = some (value, rest) := by
  rcases Nat.eq_zero_or_pos value with rfl | positive
  · rfl
  · obtain ⟨c, cs, split, -⟩ := exists_naturalChars value
    have noZero : c ≠ '0' := by
      rintro rfl
      exact head?_naturalChars positive (by rw [split]; rfl)
    have read := digits?_naturalChars value stops
    rw [split, List.cons_append] at read ⊢
    rw [whole?, read]
    · simp [← split, Numeral.naturalChars, Nat.ofDigitChars_ten_toDigits]
    · rintro tail ⟨⟩
      exact noZero rfl

theorem fraction?_append (fraction : List Digit) {rest : List Char} (stops : StopsDigits rest)
    (noPoint : rest.head? ≠ some '.') :
    fraction? (Numeral.fractionChars fraction ++ rest) = some (fraction, rest) := by
  cases fraction with
  | nil =>
    cases rest with
    | nil => rfl
    | cons c tail =>
      have other : c ≠ '.' := by rintro rfl; exact noPoint rfl
      simp [Numeral.fractionChars, fraction?, other]
  | cons digit digits =>
    have all : ∀ c ∈ (digit :: digits).map Digit.toChar, c.isDigit = true := by
      simp [isDigit_toChar]
    have read := digits?_append (by simp) all stops
    simp only [Numeral.fractionChars, List.cons_append, fraction?, read, Option.map_some,
      List.filterMap_map, Function.comp_def, ofChar?_toChar, List.filterMap_some]

theorem exponentDigits?_append (power : Int) {rest : List Char} (stops : StopsDigits rest) :
    exponentDigits? (Numeral.integerChars power ++ rest) = some (some power, rest) := by
  have magnitude : (if power < 0 then -(power.natAbs : Int) else power.natAbs) = power := by
    split <;> omega
  rw [exponentDigits?, Numeral.integerChars, List.append_assoc, exponentSign_append]
  simp only [digits?_naturalChars _ stops, Option.map_some, decide_eq_true_eq]
  rw [Numeral.naturalChars, Nat.ofDigitChars_ten_toDigits, magnitude]

theorem exponent?_append (exponent : Option Int) {rest : List Char} (ends : Delimited rest) :
    exponent? (Numeral.exponentChars exponent ++ rest) = some (exponent, rest) := by
  cases exponent with
  | none =>
    cases rest with
    | nil => rfl
    | cons c tail => rcases ends c rfl with rfl | rfl | rfl <;> rfl
  | some power =>
    have stops : StopsDigits rest := fun c head => by
      rcases ends c head with rfl | rfl | rfl <;> decide
    exact exponentDigits?_append power stops

/-! ## Numerals -/

theorem head?_exponentChars_append (exponent : Option Int) {rest : List Char}
    (ends : Delimited rest) {c : Char}
    (head : c ∈ (Numeral.exponentChars exponent ++ rest).head?) :
    c = 'e' ∨ c = ',' ∨ c = ']' ∨ c = '\x7d' := by
  cases exponent with
  | none => exact .inr (ends c head)
  | some power =>
    simp only [Numeral.exponentChars, List.cons_append, List.head?_cons, Option.mem_def,
      Option.some.injEq] at head
    exact .inl head.symm

/-- A written numeral comes back, whatever closes or separates behind it. -/
theorem numeral?_chars (n : Numeral) {rest : List Char} (ends : Delimited rest) :
    numeral? (n.chars ++ rest) = some (n, rest) := by
  obtain ⟨negative, whole, fraction, exponent⟩ := n
  have headExponent := @head?_exponentChars_append exponent rest ends
  have stopsExponent : StopsDigits (Numeral.exponentChars exponent ++ rest) := fun c head => by
    rcases headExponent head with rfl | rfl | rfl | rfl <;> decide
  have noPoint : (Numeral.exponentChars exponent ++ rest).head? ≠ some '.' := fun head => by
    simpa using headExponent head
  have stopsFraction : StopsDigits
      (Numeral.fractionChars fraction ++ (Numeral.exponentChars exponent ++ rest)) := by
    cases fraction with
    | nil => exact stopsExponent
    | cons _ _ => exact fun c head => by cases head; rfl
  simp only [Numeral.chars, List.append_assoc, numeral?, sign_append,
    whole?_append whole stopsFraction, fraction?_append fraction stopsExponent noPoint,
    exponent?_append exponent ends, Option.bind_eq_bind, Option.bind_some]

end PartitionLowering.Json.Reader
