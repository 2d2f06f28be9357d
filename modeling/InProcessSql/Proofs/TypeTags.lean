import InProcessSql.Error

/-!
# Tags name types one to one

`SqlType.ofTag_eq_ok_iff` says that a tag names a type exactly if it is the tag of that type. Making a tag adds
words and taking it apart subtracts words: `ElementType.not_saddOverflow_tag` and
`SqlType.not_saddOverflow_tag_array` say that no sum overflows, and `Band.ssubOverflow_iff` that one difference
does, that of the tag zero. `tags_one_to_one` puts this together.
-/

namespace InProcessSql

/-- Taking a tag apart subtracts the offset of its band from it. The difference is no word for the tag zero, at
the upper end of the arrays, and is one for every other tag. -/
theorem Band.ssubOverflow_iff (tag : Int32) :
    tag.toBitVec.ssubOverflow (Band.of tag).offset.toBitVec = true ↔ tag = 0 := by
  have hmin := tag.le_toInt
  have hmax := tag.toInt_lt
  have hzero : tag = 0 ↔ tag.toInt = 0 := by rw [← Int32.toInt_inj]; rfl
  rw [hzero, Band.of_eq]
  simp only [BitVec.ssubOverflow, Int32.toInt_toBitVec, Bool.or_eq_true, decide_eq_true_eq]
  split
  · have hoffset : Band.range.offset.toInt = 0x40000000 := rfl
    omega
  split
  · have hoffset : Band.multirange.offset.toInt = 0x20000000 := rfl
    omega
  split
  · have hoffset : Band.scalar.offset.toInt = 0 := rfl
    omega
  -- What lies at zero or below is measured from the least word, so that only zero is too far above it.
  · have hoffset : Band.array.offset.toInt = -0x80000000 := rfl
    omega

/-- The sum that makes the tag of an element type is a word. -/
theorem ElementType.not_saddOverflow_tag (type : ElementType) :
    type.band.offset.toBitVec.saddOverflow type.base.tag.toBitVec = false := by
  have hle := type.base.ordinal_le
  have hoffset := type.offset_band_bounds
  simp only [BitVec.saddOverflow, Int32.toInt_toBitVec, ScalarType.toInt_tag, Bool.or_eq_false_iff,
    decide_eq_false_iff_not]
  omega

/-- The sum that makes the tag of an array type is a word. -/
theorem SqlType.not_saddOverflow_tag_array (element : ElementType) :
    Band.array.offset.toBitVec.saddOverflow element.tag.toBitVec = false := by
  have hoffset : Band.array.offset.toInt = -0x80000000 := rfl
  have htag := element.toInt_tag_bounds
  simp only [BitVec.saddOverflow, Int32.toInt_toBitVec, Bool.or_eq_false_iff, decide_eq_false_iff_not]
  omega

/-- A tag names a type exactly if it is the tag of that type. -/
theorem SqlType.ofTag_eq_ok_iff {tag : Int32} {type : SqlType} :
    SqlType.ofTag tag = .ok type ↔ type.tag = tag := by
  unfold SqlType.ofTag
  constructor
  · intro h
    split at h
    · rename_i htype
      cases h
      exact SqlType.tag_of_ofTag htype
    · cases h
  · rintro rfl
    rw [SqlType.ofTag_tag]

/-- A tag that names no type is told to be unsupported. -/
theorem SqlType.ofTag_cases (tag : Int32) :
    (∃ type, SqlType.ofTag tag = .ok type) ∨ SqlType.ofTag tag = .error (.unsupportedTag tag) := by
  unfold SqlType.ofTag
  cases SqlType.ofTag? tag with
  | none => exact .inr rfl
  | some type => exact .inl ⟨type, rfl⟩

/-- Tags and types name each other: a tag is read as a type exactly if it is the tag of the type, and is
otherwise refused with an error that tells it. No sum or difference of words on the way overflows but the
difference of the tag zero, which is refused. -/
theorem tags_one_to_one :
    (∀ (tag : Int32) (type : SqlType), SqlType.ofTag tag = .ok type ↔ type.tag = tag) ∧
      (∀ tag : Int32, (∃ type, SqlType.ofTag tag = .ok type) ∨
        SqlType.ofTag tag = .error (.unsupportedTag tag)) ∧
      (∀ tag : Int32, tag.toBitVec.ssubOverflow (Band.of tag).offset.toBitVec = true ↔ tag = 0) ∧
      SqlType.ofTag 0 = .error (.unsupportedTag 0) ∧
      ∀ element : ElementType, element.band.offset.toBitVec.saddOverflow element.base.tag.toBitVec = false ∧
        Band.array.offset.toBitVec.saddOverflow element.tag.toBitVec = false := by
  refine ⟨fun _ _ => SqlType.ofTag_eq_ok_iff, SqlType.ofTag_cases, Band.ssubOverflow_iff, rfl, ?_⟩
  intro element
  exact ⟨element.not_saddOverflow_tag, SqlType.not_saddOverflow_tag_array element⟩

end InProcessSql
