import InProcessSql.SqlType.Basic

/-!
# Type tags

Older callers name a type by one signed 32-bit word. The ordinal of a scalar type is its tag; the tags of
ranges, multiranges and arrays lie in bands of their own, at fixed offsets. An array tag is the offset of the
arrays plus the tag of the element.

`ofTag?` finds the type of a tag and `tag` the tag of a type. `ofTag_tag` and `tag_of_ofTag` say that the two
are inverse, and `toInt_tag` tells the tag of an element type as a number.
-/

namespace InProcessSql

/-! ## Bands -/

/-- A band of tags. -/
inductive Band where
  | scalar
  | multirange
  | range
  | array
  deriving DecidableEq, Repr, Inhabited

namespace Band

/-- The offset of a band. That of the arrays is the least word. -/
def offset : Band → Int32
  | scalar => 0
  | multirange => 0x20000000
  | range => 0x40000000
  | array => Int32.minValue

/-- The band of a tag. A band reaches from just above its offset up to the next greater offset, and the tags
of arrays are those that are left. -/
def of (tag : Int32) : Band :=
  if range.offset < tag then range
  else if multirange.offset < tag then multirange
  else if scalar.offset < tag then scalar
  else array

/-- How far a tag lies above the offset of its band. For the tag zero, which names no type, the difference
wraps around. -/
def place (tag : Int32) : Int32 := tag - (of tag).offset

/-- A tag is the offset of its band and the place in it. -/
theorem offset_add_place (tag : Int32) : (of tag).offset + place tag = tag := by
  rw [place, Int32.add_comm, Int32.sub_add_cancel]

/-- A place is found again, if the sum stays in the band. -/
theorem place_offset_add {band : Band} {n : Int32} (h : of (band.offset + n) = band) :
    place (band.offset + n) = n := by
  rw [place, h, Int32.add_comm, Int32.add_sub_cancel]

/-- The band of a tag, told by the number that the tag is. -/
theorem of_eq (tag : Int32) : of tag =
    if 0x40000000 < tag.toInt then range
    else if 0x20000000 < tag.toInt then multirange
    else if 0 < tag.toInt then scalar
    else array := by
  simp only [of, Int32.lt_iff_toInt_lt]
  rfl

end Band

/-! ## Scalar types -/

namespace ScalarType

def tag (type : ScalarType) : Int32 := Int32.ofNat type.ordinal

def ofTag? (tag : Int32) : Option ScalarType := ofOrdinal? tag.toInt

theorem toInt_tag (type : ScalarType) : type.tag.toInt = type.ordinal := by
  have hle := type.ordinal_le
  exact Int32.toInt_ofNat_of_lt (by omega)

/-- A scalar type is found by its tag. -/
theorem ofTag_tag (type : ScalarType) : ofTag? type.tag = some type := by
  rw [ofTag?, toInt_tag, ofOrdinal_ordinal]

/-- The scalar type that is found by a tag has it. -/
theorem tag_of_ofTag {tag : Int32} {type : ScalarType} (h : ofTag? tag = some type) : type.tag = tag := by
  rw [← Int32.toInt_inj, toInt_tag]
  exact ordinal_of_ofOrdinal h

end ScalarType

/-! ## Element types -/

namespace ElementType

def band : ElementType → Band
  | scalar _ => .scalar
  | range _ => .range
  | multirange _ => .multirange

def tag (type : ElementType) : Int32 := type.band.offset + type.base.tag

def ofTag? (tag : Int32) : Option ElementType :=
  match Band.of tag with
  | .scalar => (ScalarType.ofTag? (Band.place tag)).map scalar
  | .multirange => (ScalarType.ofTag? (Band.place tag)).map multirange
  | .range => (ScalarType.ofTag? (Band.place tag)).map range
  | .array => none

/-- The offsets of the bands leave room for the places. -/
theorem offset_band_bounds (type : ElementType) :
    0 ≤ type.band.offset.toInt ∧ type.band.offset.toInt ≤ 0x40000000 := by
  cases type <;> simp only [band] <;> decide

/-- The tag of an element type, as a number. -/
theorem toInt_tag (type : ElementType) : type.tag.toInt = type.band.offset.toInt + type.base.ordinal := by
  have hle := type.base.ordinal_le
  have hoffset := type.offset_band_bounds
  rw [tag, Int32.toInt_add, ScalarType.toInt_tag]
  exact Int.bmod_eq_of_le (by omega) (by omega)

/-- The tag of an element type is positive. -/
theorem toInt_tag_bounds (type : ElementType) : 0 < type.tag.toInt ∧ type.tag.toInt < 0x50000000 := by
  have hpos := type.base.ordinal_pos
  have hle := type.base.ordinal_le
  have hoffset := type.offset_band_bounds
  rw [toInt_tag]
  omega

/-- The tag of a type lies in its band. -/
theorem band_tag (type : ElementType) : Band.of type.tag = type.band := by
  have hpos := type.base.ordinal_pos
  have hle := type.base.ordinal_le
  rw [Band.of_eq, toInt_tag]
  cases type with
  | scalar base =>
    have hoffset : (scalar base).band.offset.toInt = 0 := rfl
    rw [if_neg (by omega), if_neg (by omega), if_pos (by omega)]
    rfl
  | range base =>
    have hoffset : (range base).band.offset.toInt = 0x40000000 := rfl
    rw [if_pos (by omega)]
    rfl
  | multirange base =>
    have hoffset : (multirange base).band.offset.toInt = 0x20000000 := rfl
    rw [if_neg (by omega), if_pos (by omega)]
    rfl

/-- The place of a type in its band is that of its base. -/
theorem place_tag (type : ElementType) : Band.place type.tag = type.base.tag :=
  Band.place_offset_add type.band_tag

theorem ofTag_tag (type : ElementType) : ofTag? type.tag = some type := by
  rw [ofTag?, band_tag, place_tag, ScalarType.ofTag_tag]
  cases type <;> rfl

theorem tag_of_ofTag {n : Int32} {type : ElementType} (h : ofTag? n = some type) : type.tag = n := by
  have hn := Band.offset_add_place n
  unfold ofTag? at h
  split at h
  case h_4 => cases h
  all_goals
    rename_i hband
    obtain ⟨base, hbase, rfl⟩ := Option.map_eq_some_iff.1 h
    rw [← hn, hband, ← ScalarType.tag_of_ofTag hbase]
    rfl

end ElementType

/-! ## Types -/

namespace SqlType

def tag : SqlType → Int32
  | single type => type.tag
  | array element => Band.array.offset + element.tag

def ofTag? (tag : Int32) : Option SqlType :=
  match Band.of tag with
  | .array => if 0 < Band.place tag then (ElementType.ofTag? (Band.place tag)).map array else none
  | _ => (ElementType.ofTag? tag).map single

/-- The tag of an array type, as a number. -/
theorem toInt_tag_array (element : ElementType) :
    (array element).tag.toInt = Band.array.offset.toInt + element.tag.toInt := by
  have hoffset : Band.array.offset.toInt = -0x80000000 := rfl
  obtain ⟨hpos, hlt⟩ := element.toInt_tag_bounds
  rw [tag, Int32.toInt_add]
  exact Int.bmod_eq_of_le (by omega) (by omega)

theorem band_tag_array (element : ElementType) : Band.of (array element).tag = .array := by
  have hoffset : Band.array.offset.toInt = -0x80000000 := rfl
  obtain ⟨hpos, hlt⟩ := element.toInt_tag_bounds
  rw [Band.of_eq, toInt_tag_array]
  rw [if_neg (by omega), if_neg (by omega), if_neg (by omega)]

/-- The tag of a type leads back to the type. -/
theorem ofTag_tag (type : SqlType) : ofTag? type.tag = some type := by
  cases type with
  | single type =>
    have hband : Band.of (single type).tag = type.band := type.band_tag
    have htype : ElementType.ofTag? (single type).tag = some type := type.ofTag_tag
    rw [ofTag?, hband, htype]
    cases type <;> rfl
  | array element =>
    have hplace : Band.place (array element).tag = element.tag :=
      Band.place_offset_add (band_tag_array element)
    have hpos : 0 < element.tag := Int32.lt_iff_toInt_lt.2 element.toInt_tag_bounds.1
    rw [ofTag?, band_tag_array, hplace, ElementType.ofTag_tag]
    exact if_pos hpos

/-- A tag that names a type is the tag of that type. -/
theorem tag_of_ofTag {n : Int32} {type : SqlType} (h : ofTag? n = some type) : type.tag = n := by
  have hn := Band.offset_add_place n
  unfold ofTag? at h
  split at h
  · rename_i hband
    split at h
    · obtain ⟨element, helement, rfl⟩ := Option.map_eq_some_iff.1 h
      rw [tag, ElementType.tag_of_ofTag helement, ← hband, hn]
    · cases h
  · obtain ⟨type, htype, rfl⟩ := Option.map_eq_some_iff.1 h
    exact ElementType.tag_of_ofTag htype

end SqlType

end InProcessSql
