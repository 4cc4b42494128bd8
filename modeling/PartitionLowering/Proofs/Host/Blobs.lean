import PartitionLowering.Host.TransposeConvBlob
import PartitionLowering.Proofs.Bytes.Decoding
import PartitionLowering.Proofs.Engine.IntegerConstants
import PartitionLowering.Proofs.Running

/-!
Blobs of transposed convolutions.  A blob is decoded to the options whose words it starts with, and to nothing else
(`TransposeConvOptions.ofBlob_eq_ok`), so options come back from their own blob whatever follows it, and the first
twelve bytes of a blob come back from what they are decoded to.  Main statement:
`TransposeConvOptions.blobs_decode_exactly`.
-/

set_option autoImplicit false

namespace PartitionLowering

theorem Padding.ofCode?_eq_some {code : Int32} {padding : Padding} :
    ofCode? code = some padding ↔ padding.code = code := by
  constructor
  · intro found
    simpa using List.find?_some found
  · rintro rfl
    cases padding <;> decide

theorem Padding.exists_code_iff {value : Int} :
    (∃ padding : Padding, padding.code.toInt = value) ↔ value = 0 ∨ value = 1 ∨ value = 2 := by
  constructor
  · rintro ⟨padding, rfl⟩
    cases padding <;> decide
  · rintro (rfl | rfl | rfl)
    · exact ⟨.unknown, rfl⟩
    · exact ⟨.same, rfl⟩
    · exact ⟨.valid, rfl⟩

namespace TransposeConvOptions

open LittleEndian

variable {blob other rest : List UInt8} {options : TransposeConvOptions}

/-- The blob of options: the words from which they are decoded. -/
def toBlob (options : TransposeConvOptions) : List UInt8 :=
  LittleEndian.encodeInt32 options.padding.code ++
    LittleEndian.encodeInt32 options.strideWidth ++
      LittleEndian.encodeInt32 options.strideHeight

@[simp] theorem length_toBlob (options : TransposeConvOptions) : options.toBlob.length = 12 := by
  simp [toBlob]

theorem blobWord_take {count offset : Nat} (inside : offset + 4 ≤ count) :
    blobWord (blob.take count) offset = blobWord blob offset := by
  have whole : 4 ≤ count - offset := by omega
  simp [blobWord, List.drop_take, List.take_take, whole]

/-- A blob is decoded by its first twelve bytes. -/
theorem ofBlob_take (blob : List UInt8) : ofBlob (blob.take 12) = ofBlob blob := by
  by_cases short : blob.length < 12
  · rw [List.take_of_length_le (by omega)]
  · have long : ¬(blob.take 12).length < 12 := by
      rw [List.length_take]
      omega
    rw [ofBlob, ofBlob, if_neg short, if_neg long, blobWord_take (by decide), blobWord_take (by decide),
      blobWord_take (by decide)]

theorem length_word {offset : Nat} (inside : offset + 4 ≤ blob.length) :
    ((blob.drop offset).take 4).length = 4 := by
  rw [List.length_take, List.length_drop]
  omega

theorem encodeInt32_blobWord {offset : Nat} (inside : offset + 4 ≤ blob.length) :
    encodeInt32 (blobWord blob offset) = (blob.drop offset).take 4 :=
  encodeInt32_int32 (length_word inside)

theorem take_eq_words (long : 12 ≤ blob.length) :
    blob.take 12 = encodeInt32 (blobWord blob 0) ++
      (encodeInt32 (blobWord blob 4) ++ encodeInt32 (blobWord blob 8)) := by
  rw [encodeInt32_blobWord (by omega), encodeInt32_blobWord (by omega), encodeInt32_blobWord (by omega),
    List.drop_zero]
  have second : blob.take 12 = blob.take 4 ++ (blob.drop 4).take 8 := List.take_add (i := 4) (j := 8)
  have third : (blob.drop 4).take 8 = (blob.drop 4).take 4 ++ (blob.drop 8).take 4 := by
    have halves := List.take_add (l := blob.drop 4) (i := 4) (j := 4)
    rwa [List.drop_drop] at halves
  rw [second, third]

/-- Options have the blob that starts with their words. -/
theorem toBlob_eq_take_iff (long : 12 ≤ blob.length) :
    options.toBlob = blob.take 12 ↔
      options.padding.code = blobWord blob 0 ∧ options.strideWidth = blobWord blob 4 ∧
        options.strideHeight = blobWord blob 8 := by
  rw [take_eq_words long, toBlob, List.append_assoc]
  constructor
  · intro same
    obtain ⟨first, others⟩ := List.append_inj same (by simp)
    obtain ⟨second, third⟩ := List.append_inj others (by simp)
    exact ⟨encodeInt32_injective first, encodeInt32_injective second, encodeInt32_injective third⟩
  · rintro ⟨first, second, third⟩
    rw [first, second, third]

/-- The options that a blob is decoded to are its first three words. -/
theorem ofBlob_eq_ok :
    ofBlob blob = .ok options ↔ 12 ≤ blob.length ∧
      (options.padding.code = blobWord blob 0 ∧ options.strideWidth = blobWord blob 4 ∧
        options.strideHeight = blobWord blob 8) ∧ options.activation = .none := by
  obtain ⟨padding, strideWidth, strideHeight, activation⟩ := options
  rw [ofBlob, guard_eq_ok, Nat.not_lt, ← Padding.ofCode?_eq_some]
  refine and_congr_right fun _ => ?_
  cases decoded : Padding.ofCode? (blobWord blob 0) with
  | none => simp
  | some found => simp [eq_comm, and_assoc]

/-- They are the options whose own blob is what the blob starts with. -/
theorem ofBlob_eq_ok_iff_toBlob :
    ofBlob blob = .ok options ↔ options.toBlob = blob.take 12 ∧ options.activation = .none := by
  rw [ofBlob_eq_ok]
  constructor
  · rintro ⟨long, words, plain⟩
    exact ⟨(toBlob_eq_take_iff long).2 words, plain⟩
  · rintro ⟨same, plain⟩
    have length := congrArg List.length same
    rw [length_toBlob, List.length_take] at length
    have long : 12 ≤ blob.length := by omega
    exact ⟨long, (toBlob_eq_take_iff long).1 same, plain⟩

theorem denotes_blobWord (offset : Nat) (inside : offset + 4 ≤ blob.length) :
    ElementType.i32.Denotes ((blob.drop offset).take 4) (blobWord blob offset).toInt := by
  rw [blobWord, toInt_int32 (length_word inside)]
  exact ElementType.denotes_signed (by rw [length_word inside]; rfl) rfl

theorem exists_ofBlob_iff :
    (∃ options, ofBlob blob = .ok options) ↔ 12 ≤ blob.length ∧
      ∃ code, ElementType.i32.Denotes (blob.take 4) code ∧ (code = 0 ∨ code = 1 ∨ code = 2) := by
  constructor
  · rintro ⟨options, decoded⟩
    obtain ⟨long, ⟨code, _⟩, _⟩ := ofBlob_eq_ok.1 decoded
    refine ⟨long, _, denotes_blobWord 0 (by omega), ?_⟩
    rw [← code]
    exact Padding.exists_code_iff.1 ⟨_, rfl⟩
  · rintro ⟨long, code, denotes, known⟩
    obtain ⟨padding, rfl⟩ := Padding.exists_code_iff.2 known
    have word := denotes.unique (denotes_blobWord 0 (by omega))
    exact ⟨⟨padding, _, _, .none⟩, ofBlob_eq_ok.2 ⟨long, ⟨Int32.toInt_inj.1 word, rfl, rfl⟩, rfl⟩⟩

/-- A blob is decoded exactly where it has twelve bytes and the first four denote the code of a padding, and what
follows the twelve has no say.  The options are what the three words denote, without an activation; their own
blob is those twelve bytes, and any options without an activation come back from their own blob. -/
theorem blobs_decode_exactly (blob : List UInt8) :
    ((∃ options, ofBlob blob = .ok options) ↔ 12 ≤ blob.length ∧
      ∃ code, ElementType.i32.Denotes (blob.take 4) code ∧ (code = 0 ∨ code = 1 ∨ code = 2)) ∧
    (∀ other, other.take 12 = blob.take 12 → ofBlob other = ofBlob blob) ∧
    (∀ options, ofBlob blob = .ok options →
      ElementType.i32.Denotes (blob.take 4) options.padding.code.toInt ∧
      ElementType.i32.Denotes ((blob.drop 4).take 4) options.strideWidth.toInt ∧
      ElementType.i32.Denotes ((blob.drop 8).take 4) options.strideHeight.toInt ∧
      options.activation = .none ∧ options.toBlob = blob.take 12) ∧
    ∀ padding strideWidth strideHeight,
      ofBlob (toBlob { padding, strideWidth, strideHeight } ++ blob) =
        .ok { padding, strideWidth, strideHeight, activation := .none } := by
  refine ⟨exists_ofBlob_iff, ?_, ?_, ?_⟩
  · intro other same
    rw [← ofBlob_take other, same, ofBlob_take]
  · intro options decoded
    obtain ⟨long, ⟨code, width, height⟩, plain⟩ := ofBlob_eq_ok.1 decoded
    rw [code, width, height]
    exact ⟨denotes_blobWord 0 (by omega), denotes_blobWord 4 (by omega), denotes_blobWord 8 (by omega),
      plain, (ofBlob_eq_ok_iff_toBlob.1 decoded).1⟩
  · intro padding strideWidth strideHeight
    exact ofBlob_eq_ok_iff_toBlob.2 ⟨(List.take_left' (length_toBlob _)).symm, rfl⟩

/-- Strides of two and minus three after the code for no padding, and two more bytes. -/
def longBlob : List UInt8 :=
  [2, 0, 0, 0, 2, 0, 0, 0, 253, 255, 255, 255, 7, 7]

theorem blobs_decode_exactly_long :
    ofBlob longBlob = .ok ⟨.valid, 2, -3, .none⟩ ∧
      ElementType.i32.Denotes ((longBlob.drop 8).take 4) (-3) ∧
      (toBlob ⟨.valid, 2, -3, .none⟩) = longBlob.take 12 ∧
      longBlob.take 12 = (longBlob.take 13).take 12 ∧
      ofBlob longBlob = ofBlob (longBlob.take 13) := by
  have decoded : ofBlob longBlob = .ok ⟨.valid, 2, -3, .none⟩ := by decide
  obtain ⟨_, alike, _⟩ := blobs_decode_exactly (longBlob.take 13)
  obtain ⟨_, _, told, _⟩ := blobs_decode_exactly longBlob
  obtain ⟨_, _, height, _, back⟩ := told _ decoded
  exact ⟨decoded, height, back, rfl, alike longBlob rfl⟩

end TransposeConvOptions

end PartitionLowering
