import PartitionLowering.Fixture.Reader
import PartitionLowering.Fixture.Writer
import PartitionLowering.Proofs.Json.Records

/-!
Options read back from their JSON form.  Their fields share an object with the field `type`: the
reader takes the tag out and sets the rest aside (`ofJson?_tagged`), which loses nothing because no
field is named like the tag, and the fields written for an operator are the ones that its reader asks
for (`ofContent?_fields`).
-/

set_option autoImplicit false

namespace PartitionLowering

open Json

theorem Json.conveys_ofInt32 (value : Int32) : Conveys int32? (.ofInt32 value) value :=
  ⟨.num _, int32?_ofInt value⟩

theorem Json.conveys_ofInt32s (values : List Int32) :
    Conveys (list? int32?) (.ofInt32s values) values :=
  conveys_list fun value _ => conveys_ofInt32 value

theorem Padding.ofKey?_key (padding : Padding) : ofKey? padding.key = some padding := by
  cases padding <;> decide

theorem Activation.ofKey?_key (activation : Activation) : ofKey? activation.key = some activation := by
  cases activation <;> decide

theorem TensorType.ofKey?_key (type : TensorType) : ofKey? type.key = some type := by
  cases type <;> decide

theorem Allocation.ofKey?_key (allocation : Allocation) : ofKey? allocation.key = some allocation := by
  cases allocation <;> decide

theorem BuiltinOperator.ofKey?_key (operator : BuiltinOperator) :
    ofKey? operator.key = some operator := by
  cases operator <;> decide

/-! ## Values that can be set aside -/

theorem Numeral.isSome_toFloat?_of_integer? {n : Numeral} {value : Int}
    (read : n.integer? = some value) : n.toFloat?.isSome = true := by
  simp [toFloat?, read]

theorem Numeral.isSome_toFloat?_of_toFloat32? {n : Numeral} {value : Float32}
    (read : n.toFloat32? = some value) : n.toFloat?.isSome = true := by
  cases whole : n.integer? with
  | some integer => exact isSome_toFloat?_of_integer? whole
  | none =>
    simp only [toFloat32?, whole, Option.map_eq_some_iff] at read
    obtain ⟨double, found, -⟩ := read
    simp [found]

theorem Json.exists_num_of_float32? {json : Json} {value : Float32}
    (read : json.float32? = some value) :
    ∃ numeral, json = .num numeral ∧ numeral.toFloat?.isSome = true := by
  cases json with
  | num numeral => exact ⟨numeral, rfl, Numeral.isSome_toFloat?_of_toFloat32? read⟩
  | _ => simp [float32?] at read

theorem Json.canSetAside_num {level : Nat} (low : level < 128) {numeral : Numeral}
    (finite : numeral.toFloat?.isSome = true) : (Json.num numeral).canSetAside level = true :=
  canSetAside_iff.2 ⟨finite, low⟩

theorem Json.canSetAside_ofString {level : Nat} (low : level < 128) (text : String) :
    (Json.ofString text).canSetAside level = true :=
  canSetAside_iff.2 ⟨by simp [ofString, isReadable], low⟩

theorem Json.canSetAside_ofInt32 {level : Nat} (low : level < 128) (value : Int32) :
    (Json.ofInt32 value).canSetAside level = true :=
  canSetAside_num low (Numeral.isSome_toFloat?_of_integer? (integer?_ofInt_toInt value))

namespace OptionValue

/-- The form of a real parameter reads back; what is not real has only one form. -/
def ReadsBack (real : Float32 → Json) (option : OptionValue) : Prop :=
  ∀ value, option = .real value → (real value).float32? = some value

theorem isWritten {real : Float32 → Json} {option : OptionValue} (reads : option.ReadsBack real) :
    (option.toJsonWith real).IsWritten := by
  cases option with
  | padding value => exact .ofString value.key
  | activation value => exact .ofString value.key
  | integer value => exact .num _
  | flag value => exact .bool value
  | real value =>
    obtain ⟨numeral, form, -⟩ := exists_num_of_float32? (reads value rfl)
    rw [toJsonWith, form]
    exact .num numeral
  | integers values => exact (conveys_ofInt32s values).written

theorem canSetAside {real : Float32 → Json} {option : OptionValue} (reads : option.ReadsBack real)
    {level : Nat} (low : level + 1 < 128) : (option.toJsonWith real).canSetAside level = true := by
  have here : level < 128 := Nat.lt_of_succ_lt low
  cases option with
  | padding value => exact canSetAside_ofString here value.key
  | activation value => exact canSetAside_ofString here value.key
  | integer value => exact canSetAside_ofInt32 here value
  | flag value => exact canSetAside_iff.2 ⟨rfl, here⟩
  | real value =>
    obtain ⟨numeral, form, finite⟩ := exists_num_of_float32? (reads value rfl)
    rw [toJsonWith, form]
    exact canSetAside_num here finite
  | integers values =>
    refine canSetAside_arr low fun item member => ?_
    obtain ⟨value, -, rfl⟩ := List.mem_map.1 member
    exact canSetAside_ofInt32 low value

end OptionValue

namespace BuiltinOptions

/-- The form of a softmax's `beta` reads back. -/
def BetaReadsBack (real : Float32 → Json) (options : BuiltinOptions) : Prop :=
  ∀ softmax, options = .softmax softmax → (real softmax.beta).float32? = some softmax.beta

/-- No two fields of one operator have a name in common, and none is named like the tag.  The only
real parameter is the `beta` of a softmax. -/
theorem fields_form (options : BuiltinOptions) :
    ("type" :: options.fields.map Prod.fst).Nodup ∧
      ∀ name value, (name, .real value) ∈ options.fields →
        ∃ softmax, options = .softmax softmax ∧ value = softmax.beta := by
  cases options <;> simp [fields, ArithmeticOptions.fields, Conv2dOptions.fields,
    DepthwiseConv2dOptions.fields, Pool2dOptions.fields, ConcatenationOptions.fields,
    ReducerOptions.fields, ResizeBilinearOptions.fields, SoftmaxOptions.fields,
    TransposeConvOptions.fields, ReshapeOptions.fields]

theorem name_ne_type {options : BuiltinOptions} {field : String × OptionValue}
    (member : field ∈ options.fields) : field.1 ≠ "type" := by
  intro same
  exact (List.nodup_cons.1 options.fields_form.1).1 (same ▸ List.mem_map_of_mem member)

theorem readsBack_of_mem_fields {real : Float32 → Json} {options : BuiltinOptions}
    (reads : options.BetaReadsBack real) {field : String × OptionValue}
    (member : field ∈ options.fields) : field.2.ReadsBack real := by
  obtain ⟨name, option⟩ := field
  rintro value rfl
  obtain ⟨softmax, rfl, rfl⟩ := options.fields_form.2 name value member
  exact reads softmax rfl

theorem ofContent?_fields {real : Float32 → Json} {options : BuiltinOptions}
    (reads : options.BetaReadsBack real) :
    ofContent? options.key (.record (OptionFields.membersWith real options.fields)) =
      some options := by
  have distinct : ((OptionFields.membersWith real options.fields).map Prod.fst).Nodup := by
    rw [OptionFields.membersWith, List.map_map]
    exact (List.nodup_cons.1 options.fields_form.1).2
  have record (names : List String) := record?_record names distinct
  cases options with
  | none => rfl
  | softmax options =>
    have beta := reads options rfl
    simp only [fields, key, ofContent?] at record ⊢
    simp only [SoftmaxOptions.ofJson?, record]
    simp [Record.defaulted, member?_cons, OptionFields.membersWith, SoftmaxOptions.fields,
      OptionValue.toJsonWith, beta]
  | _ options =>
    simp only [fields, key, ofContent?] at record ⊢
    simp only [ArithmeticOptions.ofJson?, Conv2dOptions.ofJson?, DepthwiseConv2dOptions.ofJson?,
      Pool2dOptions.ofJson?, ConcatenationOptions.ofJson?, ReducerOptions.ofJson?,
      ResizeBilinearOptions.ofJson?, TransposeConvOptions.ofJson?, ReshapeOptions.ofJson?, record]
    simp [Record.paddingOr, Record.int32Or, Record.activationOr, Record.boolOr, Record.defaulted,
      member?_cons, OptionFields.membersWith, ArithmeticOptions.fields, Conv2dOptions.fields,
      DepthwiseConv2dOptions.fields, Pool2dOptions.fields, ConcatenationOptions.fields,
      ReducerOptions.fields, ResizeBilinearOptions.fields, TransposeConvOptions.fields,
      ReshapeOptions.fields, OptionValue.toJsonWith, (conveys_ofInt32 _).reads,
      (conveys_ofInt32s _).reads, (conveys_choice (Padding.ofKey?_key _) _).reads,
      (conveys_choice (Activation.ofKey?_key _) _).reads, (conveys_bool _).reads]

/-- The tag is taken out wherever it stands, and the other members are read by its reader. -/
theorem ofJson?_tagged {level : Nat} (key : String) {members : List (String × Json)}
    (untagged : ∀ member ∈ members, member.1 ≠ "type")
    (aside : ∀ member ∈ members, member.2.canSetAside (level + 1) = true) :
    ofJson? level (.record (("type", .ofString key) :: members)) =
      ofContent? key (.record members) := by
  let written := members.map fun member => (Literal.ofString member.1, member.2)
  have others : written.filter (fun member => !(decide (member.1.text? = some "type"))) = written := by
    refine List.filter_eq_self.2 fun member here => ?_
    obtain ⟨entry, listed, rfl⟩ := List.mem_map.1 here
    simpa using untagged entry listed
  have tags : written.filter (fun member => decide (member.1.text? = some "type")) = [] := by
    refine List.filter_eq_nil_iff.2 fun member here => ?_
    obtain ⟨entry, listed, rfl⟩ := List.mem_map.1 here
    simpa using untagged entry listed
  have readable : written.all (fun member =>
      member.1.text?.isSome && member.2.canSetAside (level + 1)) = true := by
    refine List.all_eq_true.2 fun member here => ?_
    obtain ⟨entry, listed, rfl⟩ := List.mem_map.1 here
    simpa using aside entry listed
  have split : ((Literal.ofString "type", Json.ofString key) :: written).partition
      (·.1.text? = some "type") = ([(Literal.ofString "type", Json.ofString key)], written) := by
    rw [List.partition_eq_filter_filter, List.filter_cons_of_pos (by simp),
      List.filter_cons_of_neg (by simp), tags]
    exact congrArg _ others
  rw [Json.record, List.map_cons, ofJson?, ofMembers?, split]
  simp only [ofString, string?, Literal.text?_ofString, Option.bind_eq_bind, Option.bind_some,
    if_pos readable]
  rfl

theorem conveys {real : Float32 → Json} {options : BuiltinOptions}
    (reads : options.BetaReadsBack real) (level : Nat) (low : level + 2 < 128) :
    Conveys (ofJson? level) (options.toJsonWith real) options := by
  constructor
  · refine .record fun member here => ?_
    rcases List.mem_cons.1 here with rfl | here
    · exact .ofString options.key
    · obtain ⟨field, listed, rfl⟩ := List.mem_map.1 here
      exact OptionValue.isWritten (readsBack_of_mem_fields reads listed)
  · rw [toJsonWith, ofJson?_tagged, ofContent?_fields reads]
    · intro member here
      obtain ⟨field, listed, rfl⟩ := List.mem_map.1 here
      exact name_ne_type listed
    · intro member here
      obtain ⟨field, listed, rfl⟩ := List.mem_map.1 here
      exact OptionValue.canSetAside (readsBack_of_mem_fields reads listed) low

end BuiltinOptions

end PartitionLowering
