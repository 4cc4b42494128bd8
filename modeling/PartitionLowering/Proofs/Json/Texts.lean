import PartitionLowering.Json.Writer
import PartitionLowering.Proofs.Json.Literals
import PartitionLowering.Proofs.Json.Numerals

/-!
Written values read back.  A value that was built from texts, numerals and values of its kind
(`Json.IsWritten`) is read from its own text whatever closes or separates behind it, and so the
whole text of a value is that value again (`Json.read?_text`).  The fuel of the reader is the length
of the text: each recursive call is made behind at least one character.
-/

set_option autoImplicit false

namespace PartitionLowering.Json

/-- Values in which every literal is the written form of a text. -/
inductive IsWritten : Json → Prop
  | null : IsWritten .null
  | bool (value : Bool) : IsWritten (.bool value)
  | num (numeral : Numeral) : IsWritten (.num numeral)
  | ofString (text : String) : IsWritten (.ofString text)
  | arr {items : List Json} (each : ∀ item ∈ items, IsWritten item) : IsWritten (.arr items)
  | record {members : List (String × Json)} (each : ∀ member ∈ members, IsWritten member.2) :
      IsWritten (.record members)

namespace Reader

/-! ## The first character -/

def StartsNumeral (c : Char) : Prop :=
  c = '-' ∨ c.isDigit = true

instance (c : Char) : Decidable (StartsNumeral c) :=
  inferInstanceAs (Decidable (_ ∨ _))

theorem StartsNumeral.ne {c : Char} (start : StartsNumeral c) (other : Char)
    (differs : ¬ StartsNumeral other) : c ≠ other := by
  rintro rfl
  exact differs start

theorem StartsNumeral.not_blank {c : Char} (start : StartsNumeral c) : isBlank c = false := by
  have space := start.ne ' ' (by decide)
  have newline := start.ne '\n' (by decide)
  have tab := start.ne '\t' (by decide)
  have carriage := start.ne '\r' (by decide)
  simp [isBlank, space, newline, tab, carriage]

theorem exists_numeral_chars (n : Numeral) :
    ∃ c cs, n.chars = c :: cs ∧ StartsNumeral c := by
  obtain ⟨c, cs, split, digit⟩ := exists_naturalChars n.whole
  unfold Numeral.chars Numeral.signChars
  cases n.negative with
  | true => exact ⟨_, _, rfl, .inl rfl⟩
  | false => exact ⟨c, _, by rw [split]; rfl, .inr digit⟩

/-- No value starts with a blank, or with the bracket that closes an empty array. -/
theorem exists_chars (value : Json) :
    ∃ c cs, value.chars = c :: cs ∧ isBlank c = false ∧ c ≠ ']' := by
  cases value with
  | null => exact ⟨_, _, rfl, by decide, by decide⟩
  | bool value => cases value <;> exact ⟨_, _, rfl, by decide, by decide⟩
  | num numeral =>
    obtain ⟨c, cs, split, start⟩ := exists_numeral_chars numeral
    exact ⟨c, cs, split, start.not_blank, start.ne ']' (by decide)⟩
  | str literal => exact ⟨_, _, rfl, by decide, by decide⟩
  | arr items => cases items <;> exact ⟨_, _, rfl, by decide, by decide⟩
  | obj members => cases members <;> exact ⟨_, _, rfl, by decide, by decide⟩

theorem skipBlanks_cons {c : Char} (cs : List Char) (solid : isBlank c = false) :
    skipBlanks (c :: cs) = c :: cs := by
  simp [skipBlanks, solid]

/-! ## Values -/

/-- With fuel for its own text a value is read from it, before anything that ends it. -/
def ReadsBack (value : Json) : Prop :=
  ∀ (fuel : Nat) (rest : List Char), value.chars.length < fuel → Delimited rest →
    value? fuel (value.chars ++ rest) = some (value, rest)

theorem readsBack_num (numeral : Numeral) : ReadsBack (.num numeral) := by
  intro fuel rest enough ends
  obtain ⟨fuel, rfl⟩ := Nat.exists_eq_add_one_of_ne_zero (Nat.ne_zero_of_lt enough)
  obtain ⟨c, cs, split, start⟩ := exists_numeral_chars numeral
  have read := numeral?_chars numeral ends
  rw [split, List.cons_append] at read
  rw [Json.chars, split, List.cons_append, value?, skipBlanks_cons _ start.not_blank]
  -- The first character selects the last alternative of the reader.
  split
  case h_1 other => exact absurd other (List.cons_ne_nil _ _)
  case h_8 => rw [read]; rfl
  all_goals
    next other => exact absurd (List.cons.inj other).1 (start.ne _ (by decide))

theorem readsBack_ofString (text : String) : ReadsBack (.ofString text) := by
  intro fuel rest enough _
  obtain ⟨fuel, rfl⟩ := Nat.exists_eq_add_one_of_ne_zero (Nat.ne_zero_of_lt enough)
  simp only [Json.ofString, Json.chars, Literal.chars, List.cons_append, List.append_assoc,
    List.nil_append]
  rw [value?, skipBlanks_cons _ (by decide)]
  simp only [Literal.read?_ofString, Option.map_some]

/-- The items of an array that has one, with fuel for their text. -/
theorem items?_chars (item : Json) (items : List Json)
    (each : ∀ member ∈ item :: items, ReadsBack member) (fuel : Nat) (rest : List Char)
    (enough : item.chars.length + (charsOfItems items).length < fuel) :
    items? fuel (item.chars ++ (charsOfItems items ++ rest)) = some (item :: items, rest) := by
  induction items generalizing item fuel with
  | nil =>
    obtain ⟨fuel, rfl⟩ := Nat.exists_eq_add_one_of_ne_zero (Nat.ne_zero_of_lt enough)
    simp only [charsOfItems, List.length_cons, List.length_nil] at enough
    have first := each item List.mem_cons_self fuel (']' :: rest) (by omega)
      (delimited_cons _ (by decide))
    simp only [charsOfItems, List.cons_append, List.nil_append]
    rw [items?, first]
    simp [skipBlanks_cons, isBlank]
  | cons next items ih =>
    obtain ⟨fuel, rfl⟩ := Nat.exists_eq_add_one_of_ne_zero (Nat.ne_zero_of_lt enough)
    simp only [charsOfItems, List.length_cons, List.length_append] at enough
    have first := each item List.mem_cons_self fuel
      (',' :: (next.chars ++ (charsOfItems items ++ rest))) (by omega)
      (delimited_cons _ (by decide))
    have others := ih next (fun member here => each member (List.mem_cons_of_mem _ here)) fuel
      (by omega)
    simp only [charsOfItems, List.cons_append, List.append_assoc]
    rw [items?, first]
    simp [skipBlanks_cons, isBlank, others]

theorem readsBack_arr {items : List Json} (each : ∀ item ∈ items, ReadsBack item) :
    ReadsBack (.arr items) := by
  intro fuel rest enough _
  obtain ⟨fuel, rfl⟩ := Nat.exists_eq_add_one_of_ne_zero (Nat.ne_zero_of_lt enough)
  cases items with
  | nil => simp [Json.chars, value?, skipBlanks_cons, isBlank]
  | cons item items =>
    simp only [Json.chars, List.length_cons, List.length_append] at enough
    have read := items?_chars item items each fuel rest (by omega)
    obtain ⟨c, cs, split, solid, noClose⟩ := exists_chars item
    simp only [Json.chars, List.cons_append, List.append_assoc]
    rw [split, List.cons_append] at read ⊢
    rw [value?, skipBlanks_cons _ (by decide)]
    simp only [skipBlanks_cons _ solid]
    split
    · next close => exact absurd (List.cons.inj close).1 noClose
    · rw [read]; rfl

theorem members?_last (key : String) {value : Json} {fuel : Nat} {rest : List Char}
    (read : value? fuel (value.chars ++ '\x7d' :: rest) = some (value, '\x7d' :: rest)) :
    members? (fuel + 1) ((Literal.ofString key).chars ++ ':' :: (value.chars ++ '\x7d' :: rest)) =
      some ([(.ofString key, value)], rest) := by
  simp only [Literal.chars, List.cons_append, List.append_assoc, List.nil_append]
  rw [members?]
  simp [skipBlanks_cons, isBlank, after?, Literal.read?_ofString, read]

theorem members?_more (key : String) {value : Json} {members : List (Literal × Json)} {fuel : Nat}
    {tail rest : List Char} (read : value? fuel (value.chars ++ ',' :: tail) = some (value, ',' :: tail))
    (others : members? fuel tail = some (members, rest)) :
    members? (fuel + 1) ((Literal.ofString key).chars ++ ':' :: (value.chars ++ ',' :: tail)) =
      some ((.ofString key, value) :: members, rest) := by
  simp only [Literal.chars, List.cons_append, List.append_assoc, List.nil_append]
  rw [members?]
  simp [skipBlanks_cons, isBlank, after?, Literal.read?_ofString, read, others]

/-- The members of a record that has one, with fuel for their text. -/
theorem members?_chars (member : String × Json) (members : List (String × Json))
    (each : ∀ entry ∈ member :: members, ReadsBack entry.2) (fuel : Nat) (rest : List Char)
    (enough : (Literal.ofString member.1).chars.length + member.2.chars.length +
      (charsOfMembers (members.map fun entry => (.ofString entry.1, entry.2))).length < fuel) :
    members? fuel ((Literal.ofString member.1).chars ++ ':' :: (member.2.chars ++
        (charsOfMembers (members.map fun entry => (.ofString entry.1, entry.2)) ++ rest))) =
      some ((member :: members).map fun entry => (.ofString entry.1, entry.2), rest) := by
  induction members generalizing member fuel with
  | nil =>
    obtain ⟨fuel, rfl⟩ := Nat.exists_eq_add_one_of_ne_zero (Nat.ne_zero_of_lt enough)
    simp only [List.map_nil, charsOfMembers, List.length_cons, List.length_nil] at enough
    have first := each member List.mem_cons_self fuel ('\x7d' :: rest) (by omega)
      (delimited_cons _ (by decide))
    exact members?_last member.1 first
  | cons next members ih =>
    obtain ⟨fuel, rfl⟩ := Nat.exists_eq_add_one_of_ne_zero (Nat.ne_zero_of_lt enough)
    simp only [List.map_cons, charsOfMembers, List.length_cons, List.length_append] at enough
    have first := each member List.mem_cons_self fuel
      (',' :: ((Literal.ofString next.1).chars ++ ':' :: (next.2.chars ++
        (charsOfMembers (members.map fun entry => (.ofString entry.1, entry.2)) ++ rest))))
      (by omega) (delimited_cons _ (by decide))
    have others := ih next (fun entry here => each entry (List.mem_cons_of_mem _ here)) fuel
      (by omega)
    simp only [List.map_cons, charsOfMembers, List.cons_append, List.append_assoc] at others ⊢
    exact members?_more member.1 first others

theorem readsBack_record {members : List (String × Json)}
    (each : ∀ member ∈ members, ReadsBack member.2) : ReadsBack (.record members) := by
  intro fuel rest enough _
  obtain ⟨fuel, rfl⟩ := Nat.exists_eq_add_one_of_ne_zero (Nat.ne_zero_of_lt enough)
  cases members with
  | nil => simp [Json.record, Json.chars, value?, skipBlanks_cons, isBlank]
  | cons member members =>
    simp only [Json.record, List.map_cons, Json.chars, List.length_cons, List.length_append]
      at enough
    have read := members?_chars member members each fuel rest (by omega)
    simp only [Json.record, List.map_cons, Json.chars, Literal.chars, List.cons_append,
      List.append_assoc] at read ⊢
    rw [value?, skipBlanks_cons _ (by decide)]
    have solid (cs : List Char) : skipBlanks ('"' :: cs) = '"' :: cs :=
      skipBlanks_cons cs (by decide)
    simp only [solid]
    split
    · next close => exact absurd (List.cons.inj close).1 (by decide)
    · rw [read]; rfl

/-- Every written value is read from its own text. -/
theorem readsBack_of_isWritten {value : Json} (written : value.IsWritten) : ReadsBack value := by
  induction written with
  | null =>
    intro fuel rest enough _
    obtain ⟨fuel, rfl⟩ := Nat.exists_eq_add_one_of_ne_zero (Nat.ne_zero_of_lt enough)
    rfl
  | bool value =>
    intro fuel rest enough _
    obtain ⟨fuel, rfl⟩ := Nat.exists_eq_add_one_of_ne_zero (Nat.ne_zero_of_lt enough)
    cases value <;> rfl
  | num numeral => exact readsBack_num numeral
  | ofString text => exact readsBack_ofString text
  | arr _ ih => exact readsBack_arr ih
  | record _ ih => exact readsBack_record ih

end Reader

/-- The text of a written value is read as that value. -/
theorem read?_text {value : Json} (written : value.IsWritten) : read? value.text = some value := by
  have read := Reader.readsBack_of_isWritten written (value.chars.length + 1) [] (Nat.lt_succ_self _)
    Reader.delimited_nil
  rw [List.append_nil] at read
  simp only [read?, text, String.toList_ofList, readChars?, read, Option.bind_eq_bind,
    Option.bind_some]
  rfl

end PartitionLowering.Json
