import PartitionLowering.Json.Record
import PartitionLowering.Proofs.Json.Texts

/-!
Typed readings of written values.  `Json.Conveys read json value` says that `json` is written and
that `read` takes `value` from it, so that `value` comes back from the text of `json` as well
(`Conveys.ofText`).  There is one lemma for each kind of value; a record with distinct names answers
each name by what was written under it (`record?_record`).
-/

set_option autoImplicit false

namespace PartitionLowering.Json

variable {α : Type}

/-- `json` is a written value from which `read` takes `value`. -/
structure Conveys (read : Json → Option α) (json : Json) (value : α) : Prop where
  written : json.IsWritten
  reads : read json = some value

/-- What a written value conveys, its text conveys. -/
theorem Conveys.ofText {read : Json → Option α} {json : Json} {value : α}
    (conveys : Conveys read json value) : (read? json.text).bind read = some value := by
  rw [read?_text conveys.written, Option.bind_some, conveys.reads]

/-! ## Scalars -/

theorem conveys_bool (value : Bool) : Conveys bool? (.bool value) value :=
  ⟨.bool value, rfl⟩

theorem conveys_ofString (text : String) : Conveys string? (.ofString text) text :=
  ⟨.ofString text, Literal.text?_ofString text⟩

theorem integer?_ofInt {value : Int} (low : -(Size.bound / 2 : Nat) ≤ value)
    (high : value < Size.bound) : (Json.ofInt value).integer? = some value := by
  have whole : (Numeral.ofInt value).fraction = [] ∧ (Numeral.ofInt value).exponent = none :=
    ⟨rfl, rfl⟩
  have magnitude : (Numeral.ofInt value).whole = value.natAbs := rfl
  rw [Json.ofInt, integer?, Numeral.integer?, if_pos whole, magnitude]
  by_cases below : value < 0
  · have fits : value.natAbs ≠ 0 ∧ value.natAbs ≤ Size.bound / 2 := by omega
    have negative : (Numeral.ofInt value).negative = true := decide_eq_true below
    rw [if_pos negative, if_pos fits, Option.some.injEq]
    omega
  · have fits : value.natAbs < Size.bound := by omega
    have positive : ¬ (Numeral.ofInt value).negative = true := by simpa [Numeral.ofInt] using below
    rw [if_neg positive, if_pos fits, Option.some.injEq]
    omega

theorem integer?_ofNat {value : Nat} (small : value < Size.bound) :
    (Json.ofNat value).integer? = some (value : Int) := by
  have same : Json.ofNat value = Json.ofInt value := by
    simp [Json.ofNat, Json.ofInt, Numeral.ofNat, Numeral.ofInt]
  rw [same]
  exact integer?_ofInt (by omega) (by exact_mod_cast small)

theorem integer?_ofInt_toInt (value : Int32) :
    (Json.ofInt value.toInt).integer? = some value.toInt := by
  have low := value.le_toInt
  have high := value.toInt_lt
  exact integer?_ofInt (by simp only [Size.bound]; omega) (by simp only [Size.bound]; omega)

theorem int32?_ofInt (value : Int32) : int32? (.ofInt value.toInt) = some value := by
  have bounds : Int32.minValue.toInt ≤ value.toInt ∧ value.toInt ≤ Int32.maxValue.toInt :=
    ⟨value.minValue_le_toInt, value.toInt_le⟩
  rw [int32?, integer?_ofInt_toInt, Option.bind_eq_bind, Option.bind_some, if_pos bounds,
    Int32.ofInt_toInt]

theorem conveys_byte (byte : UInt8) : Conveys uint8? (.ofNat byte.toNat) byte := by
  have small := byte.toNat_lt
  have read : (Json.ofNat byte.toNat).integer? = some (byte.toNat : Int) :=
    integer?_ofNat (by simp only [Size.bound]; omega)
  have bounds : 0 ≤ (byte.toNat : Int) ∧ (byte.toNat : Int) < 256 := by omega
  refine ⟨.num _, ?_⟩
  rw [uint8?, read, Option.bind_eq_bind, Option.bind_some, if_pos bounds]
  simp

theorem conveys_choice {ofKey? : String → Option α} {key : String} {value : α}
    (known : ofKey? key = some value) (place : Place) :
    Conveys (choice? ofKey? place) (.ofString key) value :=
  ⟨.ofString key, by simp [ofString, choice?, known]⟩

/-! ## Lists -/

theorem conveys_list {read : Json → Option α} {write : α → Json} {values : List α}
    (each : ∀ value ∈ values, Conveys read (write value) value) :
    Conveys (list? read) (.arr (values.map write)) values := by
  constructor
  · exact .arr fun item member => by
      obtain ⟨value, here, rfl⟩ := List.mem_map.1 member
      exact (each value here).written
  · rw [list?]
    induction values with
    | nil => rfl
    | cons value values ih =>
      have first := (each value List.mem_cons_self).reads
      have others := ih fun value member => each value (List.mem_cons_of_mem _ member)
      rw [List.map_cons, List.mapM_cons, first, others]
      rfl

/-- A value that may be absent, where none that is there is written as `null`. -/
theorem conveys_option {read : Json → Option α} {write : α → Json}
    (present : ∀ value, write value ≠ .null) (each : ∀ value, Conveys read (write value) value)
    (value : Option α) : Conveys (option? read) (value.elim .null write) value := by
  cases value with
  | none => exact ⟨.null, rfl⟩
  | some value =>
    have there : option? read (write value) = (read (write value)).map some := by
      rw [option?]
      exact present value
    exact ⟨(each value).written, by rw [Option.elim_some, there, (each value).reads]; rfl⟩

/-! ## Records -/

def member? (members : List (String × Json)) (name : String) : Option Json :=
  (members.find? (·.1 = name)).map Prod.snd

theorem member?_cons (name : String) (member : String × Json) (members : List (String × Json)) :
    member? (member :: members) name =
      if member.1 = name then some member.2 else member? members name := by
  by_cases here : member.1 = name <;> simp [member?, here]

theorem find?_record (members : List (String × Json)) (name : String) :
    ((members.map fun member => (Literal.ofString member.1, member.2)).find?
      (·.1.text? = some name)).map Prod.snd = member? members name := by
  induction members with
  | nil => rfl
  | cons member members ih =>
    by_cases here : member.1 = name
    · simp [member?, here]
    · simpa [member?, here] using ih

/-- Distinct names are written once each, so every name answers with what stands under it. -/
theorem record?_record (names : List String) {members : List (String × Json)}
    (distinct : (members.map Prod.fst).Nodup) :
    (record members).record? names = some (member? members) := by
  let written := members.map fun member => (Literal.ofString member.1, member.2)
  have readable : written.all (fun member => member.1.text?.isSome) = true := by
    simp [written]
  have once (name : String) : (written.filter (·.1.text? = some name)).length ≤ 1 := by
    have count := List.nodup_iff_count.1 distinct name
    rw [List.count, List.countP_map] at count
    rw [← List.countP_eq_length_filter, List.countP_map]
    refine Nat.le_trans (Nat.le_of_eq (List.countP_congr fun member _ => ?_)) count
    simp
  have accepted : names.all (fun name =>
      decide ((written.filter (·.1.text? = some name)).length ≤ 1)) = true :=
    List.all_eq_true.2 fun name _ => decide_eq_true (once name)
  rw [record, record?, recordOfMembers?, if_pos ⟨readable, accepted⟩]
  exact congrArg some (funext fun name => find?_record members name)

/-! ## Values set aside -/

theorem canSetAside_iff {level : Nat} {value : Json} :
    value.canSetAside level = true ↔ value.isReadable = true ∧ level + value.depth < 128 := by
  simp [canSetAside]

/-- An array can be set aside where its items can, one level further in. -/
theorem canSetAside_arr {level : Nat} {items : List Json} (low : level + 1 < 128)
    (each : ∀ item ∈ items, item.canSetAside (level + 1) = true) :
    (arr items).canSetAside level = true := by
  have all : areReadable items = true ∧ level + 1 + depthOfItems items < 128 := by
    induction items with
    | nil => exact ⟨rfl, low⟩
    | cons item items ih =>
      have first := canSetAside_iff.1 (each item List.mem_cons_self)
      obtain ⟨readable, shallow⟩ := ih fun item member => each item (List.mem_cons_of_mem _ member)
      refine ⟨by simp [areReadable, first.1, readable], ?_⟩
      simp only [depthOfItems]
      omega
  refine canSetAside_iff.2 ⟨all.1, ?_⟩
  rw [depth]
  omega

end PartitionLowering.Json
