import PartitionLowering.Json.Literal

/-!
Written string literals read back.  A character is escaped on its own, so scanning and reading go
over a literal one escape at a time (`scan?_escape`, `units?_escape`).  No character is half of a
surrogate pair, so the code points that come back are the characters written (`text?_ofString`).
-/

set_option autoImplicit false

namespace PartitionLowering.Literal

/-! ## Hexadecimal digits -/

theorem hexDigit?_digitChar : ∀ digit < 16, hexDigit? (Nat.digitChar digit) = some digit := by
  decide

theorem hexWord?_unicodeEscape {c : Char} (control : c.toNat < 32) :
    hexWord? '0' '0' (Nat.digitChar (c.toNat / 16)) (Nat.digitChar (c.toNat % 16)) =
      some c.toNat := by
  have high := hexDigit?_digitChar (c.toNat / 16) (by omega)
  have low := hexDigit?_digitChar (c.toNat % 16) (by omega)
  have zero : hexDigit? '0' = some 0 := by decide
  simp only [hexWord?, zero, high, low, Option.bind_eq_bind, Option.bind_some, Option.pure_def,
    Option.some.injEq]
  omega

/-! ## Escapes -/

/-- The ways in which a character is written. -/
theorem escape_cases (c : Char) :
    (∃ sign, escape c = ['\\', sign] ∧ simpleEscape? sign = some c ∧ sign ≠ 'u') ∨
      (escape c = unicodeEscape c ∧ c.toNat < 32) ∨
      (escape c = [c] ∧ c ≠ '"' ∧ c ≠ '\\' ∧ ¬ c.toNat < 32) := by
  unfold escape
  split
  · subst c; exact .inl ⟨'"', rfl, rfl, by decide⟩
  split
  · subst c; exact .inl ⟨'\\', rfl, rfl, by decide⟩
  split
  · subst c; exact .inl ⟨'b', rfl, rfl, by decide⟩
  split
  · subst c; exact .inl ⟨'f', rfl, rfl, by decide⟩
  split
  · subst c; exact .inl ⟨'n', rfl, rfl, by decide⟩
  split
  · subst c; exact .inl ⟨'r', rfl, rfl, by decide⟩
  split
  · subst c; exact .inl ⟨'t', rfl, rfl, by decide⟩
  split
  · next control => exact .inr (.inl ⟨rfl, control⟩)
  · next noQuote noBackslash _ _ _ _ _ plain =>
    exact .inr (.inr ⟨rfl, noQuote, noBackslash, plain⟩)

theorem scan?_escape (c : Char) (cs : List Char) :
    scan? (escape c ++ cs) = (scan? cs).map fun parts => (escape c ++ parts.1, parts.2) := by
  rcases escape_cases c with ⟨sign, form, means, noU⟩ | ⟨form, control⟩ |
    ⟨form, noQuote, noBackslash, plain⟩
  · rw [form, List.cons_append, List.singleton_append, scan?]
    · cases scan? cs <;> simp [means]
    · exact fun _ _ _ _ _ isU _ => noU isU
  · rw [form]
    simp only [unicodeEscape, List.cons_append, List.nil_append]
    rw [scan?, hexWord?_unicodeEscape control]
    cases scan? cs <;> simp
  · rw [form, List.singleton_append, scan?]
    · cases scan? cs <;> simp [noBackslash, plain]
    all_goals simp_all

theorem units?_escape (c : Char) (cs : List Char) :
    units? (escape c ++ cs) = (units? cs).map (c.toNat :: ·) := by
  rcases escape_cases c with ⟨sign, form, means, noU⟩ | ⟨form, control⟩ |
    ⟨form, noQuote, noBackslash, plain⟩
  · rw [form, List.cons_append, List.singleton_append, units?]
    · cases units? cs <;> simp [means]
    · exact fun _ _ _ _ _ isU _ => noU isU
  · rw [form]
    simp only [unicodeEscape, List.cons_append, List.nil_append]
    rw [units?, hexWord?_unicodeEscape control]
    cases units? cs <;> simp
  · rw [form, List.singleton_append, units?]
    · cases units? cs <;> simp [noBackslash]
    all_goals simp_all

/-! ## Literals -/

theorem scan?_flatMap_escape (cs rest : List Char) :
    scan? (cs.flatMap escape ++ '"' :: rest) = some (cs.flatMap escape, rest) := by
  induction cs with
  | nil => rfl
  | cons c cs ih =>
    rw [List.flatMap_cons, List.append_assoc, scan?_escape, ih, Option.map_some]

/-- A written literal is read up to its closing quote. -/
theorem read?_ofString (text : String) (rest : List Char) :
    read? ((ofString text).raw ++ '"' :: rest) = some (ofString text, rest) := by
  simp [read?, ofString, scan?_flatMap_escape]

theorem units?_flatMap_escape (cs : List Char) :
    units? (cs.flatMap escape) = some (cs.map Char.toNat) := by
  induction cs with
  | nil => rfl
  | cons c cs ih => rw [List.flatMap_cons, units?_escape, ih, Option.map_some, List.map_cons]

theorem isHighSurrogate_toNat (c : Char) : isHighSurrogate c.toNat = false := by
  have valid := c.valid
  simp only [UInt32.isValidChar, Nat.isValidChar] at valid
  simp only [isHighSurrogate, Char.toNat, Bool.and_eq_false_iff, decide_eq_false_iff_not]
  omega

theorem isLowSurrogate_toNat (c : Char) : isLowSurrogate c.toNat = false := by
  have valid := c.valid
  simp only [UInt32.isValidChar, Nat.isValidChar] at valid
  simp only [isLowSurrogate, Char.toNat, Bool.and_eq_false_iff, decide_eq_false_iff_not]
  omega

theorem joinSurrogates?_map_toNat (cs : List Char) :
    joinSurrogates? (cs.map Char.toNat) = some cs := by
  induction cs with
  | nil => rfl
  | cons c cs ih =>
    cases cs with
    | nil => simp [joinSurrogates?, isHighSurrogate_toNat, isLowSurrogate_toNat]
    | cons next cs =>
      rw [List.map_cons] at ih
      simp [joinSurrogates?, isHighSurrogate_toNat, isLowSurrogate_toNat, ih]

/-- A written literal stands for the text that it was written from. -/
@[simp] theorem text?_ofString (text : String) : (ofString text).text? = some text := by
  simp [text?, ofString, units?_flatMap_escape, joinSurrogates?_map_toNat]

end PartitionLowering.Literal
