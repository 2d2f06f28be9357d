import Mathlib
import InProcessSql.Proofs.Calendar.Rereading
import InProcessSql.Proofs.TextFormat.ArrayTexts

/-!
# Written values are read back

A value without floating-point numbers that is a scalar, or an array of nulls and scalars of one type, is
read back from its text by the type that it has without one of its own. The elements of an array are found
again whatever characters they hold, because those that would be misread are quoted. Times come back as a clock shows
them: `Value.onClock` is the value that is read, and it is the value that has been written unless that tells a leap
second within a minute.
-/

namespace InProcessSql

open InProcessSql.Calendar InProcessSql.Number InProcessSql.Text

/-! ## Clocks -/

namespace Value

mutual

/-- The value with each of its times as a clock shows it. -/
def onClock : Value → Value
  | time t => time t.onClock
  | timestamp t => timestamp t.onClock
  | timestamptz t => timestamptz t.onClock
  | array items => array (allOnClock items)
  | v => v

/-- The values with each of their times as a clock shows it. -/
def allOnClock : List Value → List Value
  | [] => []
  | v :: vs => v.onClock :: allOnClock vs

end

mutual

/-- The times of a value. -/
def times : Value → List TimeOfDay
  | time t => [t]
  | timestamp t => [t.time]
  | timestamptz t => [t.time]
  | array items => allTimes items
  | _ => []

/-- The times of values. -/
def allTimes : List Value → List TimeOfDay
  | [] => []
  | v :: vs => v.times ++ allTimes vs

end

theorem allOnClock_eq_map (vs : List Value) : allOnClock vs = vs.map onClock := by
  induction vs with
  | nil => rw [allOnClock, List.map_nil]
  | cons v vs ih => rw [allOnClock, ih, List.map_cons]

mutual

/-- A value is as clocks show it if each of its times is. -/
theorem onClock_eq_self_iff : (v : Value) → (v.onClock = v ↔ ∀ t ∈ v.times, t.IsOnClock)
  | time t => by
    simp only [onClock, times, time.injEq, List.forall_mem_singleton, TimeOfDay.onClock_eq_self_iff]
  | timestamp t => by
    simp only [onClock, times, timestamp.injEq, List.forall_mem_singleton, DateTime.onClock_eq_self_iff]
  | timestamptz t => by
    simp only [onClock, times, timestamptz.injEq, List.forall_mem_singleton, DateTime.onClock_eq_self_iff]
  | array items => by
    rw [onClock, times, array.injEq]
    exact allOnClock_eq_self_iff items
  | null | bool _ | int2 _ | int4 _ | int8 _ | float4 _ | float8 _ | numeric _ | text _ | bytea _ | date _ => by
    simp [onClock, times]

theorem allOnClock_eq_self_iff : (vs : List Value) → (allOnClock vs = vs ↔ ∀ t ∈ allTimes vs, t.IsOnClock)
  | [] => by simp [allOnClock, allTimes]
  | v :: vs => by
    rw [allOnClock, allTimes, List.cons.injEq, List.forall_mem_append, onClock_eq_self_iff v,
      allOnClock_eq_self_iff vs]

end

end Value

namespace TextFormat

/-! ## Bytes -/

theorem hexValue?_digitChar : ∀ d < 16, hexValue? (Nat.digitChar d) = some d := by decide

theorem digitChar_ne_plus : ∀ d < 16, (Nat.digitChar d == '+') = false := by decide

theorem utf8Size_digitChar : ∀ d < 16, (Nat.digitChar d).utf8Size = 1 := by decide

/-- Two hexadecimal digits are read as the byte that they are. -/
theorem readHexPair_digitChar {high low : Nat} (hhigh : high < 16) (hlow : low < 16) :
    readHexPair (Nat.digitChar high) (Nat.digitChar low) = .ok (UInt8.ofNat (16 * high + low)) := by
  simp only [readHexPair, digitChar_ne_plus high hhigh, hexValue?_digitChar high hhigh,
    hexValue?_digitChar low hlow, Bool.false_eq_true, if_false]

/-- Bytes are read back from pairs of hexadecimal digits. -/
theorem readHexPairs_hexByte (bytes : List UInt8) : readHexPairs (bytes.flatMap hexByte) = .ok bytes := by
  induction bytes with
  | nil => rfl
  | cons b bs ih =>
    have hbyte : b.toNat < 256 := b.toNat_lt
    have hhigh : b.toNat / 16 < 16 := by omega
    have hlow : b.toNat % 16 < 16 := by omega
    have hpair : UInt8.ofNat (16 * (b.toNat / 16) + b.toNat % 16) = b := by
      rw [Nat.div_add_mod, UInt8.ofNat_toNat]
    rw [List.flatMap_cons, hexByte, List.cons_append, List.cons_append, List.nil_append, readHexPairs]
    rw [if_pos (utf8Size_digitChar _ hhigh), if_pos (utf8Size_digitChar _ hlow),
      readHexPair_digitChar hhigh hlow, hpair, ih]
    rfl

/-- Each byte is written as two characters of ASCII. -/
theorem byteCount_hexByte (bytes : List UInt8) : byteCount (bytes.flatMap hexByte) = 2 * bytes.length := by
  induction bytes with
  | nil => rfl
  | cons b bs ih =>
    have hbyte : b.toNat < 256 := b.toNat_lt
    have hhigh := utf8Size_digitChar (b.toNat / 16) (by omega)
    have hlow := utf8Size_digitChar (b.toNat % 16) (by omega)
    rw [List.flatMap_cons, hexByte, List.cons_append, List.cons_append, List.nil_append]
    show (Nat.digitChar (b.toNat / 16)).utf8Size + ((Nat.digitChar (b.toNat % 16)).utf8Size
      + byteCount (bs.flatMap hexByte)) = 2 * (bs.length + 1)
    omega

/-- Bytes are read back from hexadecimal. -/
theorem readBytes_writeBytes (bytes : List UInt8) : readBytes (writeBytes bytes) = .ok bytes := by
  have heven : byteCount (bytes.flatMap hexByte) % 2 = 0 := by
    rw [byteCount_hexByte]
    omega
  rw [writeBytes, readBytes, if_pos heven, readHexPairs_hexByte]

/-! ## Scalars -/

/-- The scalar types whose values are written without loss. -/
def exactTypes : List ScalarType :=
  [.boolean, .smallint, .integer, .bigint, .numeric, .text, .bytea, .date, .time, .timestamp, .timestamptz]

/-- An integer of a signed word is read back. -/
theorem readInteger_signed {bits : Nat} {n : Int} (hlo : -2 ^ (bits - 1) ≤ n) (hhi : n < 2 ^ (bits - 1)) :
    readInteger (Range.signed bits) (ofInt n) = .ok n := by
  have hpow : (Nat.pow 2 (bits - 1) : Int) = 2 ^ (bits - 1) := Int.natCast_pow 2 (bits - 1)
  have hpos : (0 : Int) < 2 ^ (bits - 1) := Int.pow_pos (by omega)
  apply readInteger_ofInt <;> simp only [Range.signed, hpow] <;> omega

/-- A scalar of such a type is read back by its type, with its time as a clock shows it. -/
theorem readScalar_write {v : Value} {type : ScalarType} (htype : type ∈ exactTypes)
    (hv : v.scalarType? = some type) : readScalar type (write v) = .ok v.onClock := by
  cases v with
  | null | float4 | float8 =>
    cases hv
    exact absurd htype (by decide)
  | array items => cases hv
  | bool b =>
    cases hv
    cases b <;> rfl
  | int2 n =>
    cases hv
    have hread : readInteger (Range.signed 16) (ofInt n.toInt) = .ok n.toInt :=
      readInteger_signed (show -2 ^ (16 - 1) ≤ n.toInt from n.le_toInt)
        (show n.toInt < 2 ^ (16 - 1) from n.toInt_lt)
    simp only [readScalar, write, String.toList_ofList, writeChars, hread]
    exact congrArg (Except.ok ∘ Value.int2) (Int16.ofInt_toInt n)
  | int4 n =>
    cases hv
    have hread : readInteger (Range.signed 32) (ofInt n.toInt) = .ok n.toInt :=
      readInteger_signed (show -2 ^ (32 - 1) ≤ n.toInt from n.le_toInt)
        (show n.toInt < 2 ^ (32 - 1) from n.toInt_lt)
    simp only [readScalar, write, String.toList_ofList, writeChars, hread]
    exact congrArg (Except.ok ∘ Value.int4) (Int32.ofInt_toInt n)
  | int8 n =>
    cases hv
    have hread : readInteger (Range.signed 64) (ofInt n.toInt) = .ok n.toInt :=
      readInteger_signed (show -2 ^ (64 - 1) ≤ n.toInt from n.le_toInt)
        (show n.toInt < 2 ^ (64 - 1) from n.toInt_lt)
    simp only [readScalar, write, String.toList_ofList, writeChars, hread]
    exact congrArg (Except.ok ∘ Value.int8) (Int64.ofInt_toInt n)
  | numeric s =>
    cases hv
    exact congrArg (Except.ok ∘ Value.numeric) (String.ofList_toList)
  | text s =>
    cases hv
    exact congrArg (Except.ok ∘ Value.text) (String.ofList_toList)
  | bytea bytes =>
    cases hv
    simp only [readScalar, write, String.toList_ofList, writeChars, readBytes_writeBytes]
    rfl
  | date d =>
    cases hv
    simp only [readScalar, write, String.toList_ofList, writeChars, Date.read_write]
    rfl
  | time t =>
    cases hv
    simp only [readScalar, write, String.toList_ofList, writeChars, TimeOfDay.read_write]
    rfl
  | timestamp t =>
    cases hv
    simp only [readScalar, write, String.toList_ofList, writeChars, DateTime.read_write]
    rfl
  | timestamptz t =>
    cases hv
    simp only [readScalar, write, String.toList_ofList, writeChars, DateTime.readWithOffset_write]
    rfl

/-! ## Elements -/

/-- A written element is a text of that element, because quotes and backslashes in it are escaped. -/
theorem spells_writeElement (cs : List Char) : Spells ⟨isQuotedElement cs, cs⟩ (writeElement cs) := by
  rw [writeElement]
  by_cases hq : isQuotedElement cs = true
  · rw [if_pos hq, hq]
    exact .quoted (escapes_flatMap_escapeElementChar cs)
  · rw [if_neg hq]
    rw [Bool.not_eq_true] at hq
    rw [hq]
    exact spells_of_isQuotedElement hq

/-! ## Arrays -/

/-- A value as it stands between the braces of an array. -/
def writtenItem : Value → List Char
  | .null => "NULL".toList
  | v => writeElement (writeChars v)

/-- The element that a value is found again as. -/
def elementOf : Value → Element
  | .null => ⟨false, "NULL".toList⟩
  | v => ⟨isQuotedElement (writeChars v), writeChars v⟩

theorem writeElements_eq_map (vs : List Value) : writeElements vs = vs.map writtenItem := by
  induction vs with
  | nil => simp only [writeElements, List.map_nil]
  | cons v vs ih => cases v <;> simp only [writeElements, writtenItem, List.map_cons, ih]

/-- An item is written as a text of its element. -/
theorem spells_writtenItem (v : Value) : Spells (elementOf v) (writtenItem v) := by
  cases v with
  | null => exact spells_null (eqIgnoreCase_refl _)
  | _ => exact spells_writeElement _

/-- Items with commas between them are found again one by one. -/
theorem splitElements_joinElements (v : Value) (vs : List Value) :
    splitElements (joinElements ((v :: vs).map writtenItem)) = ((v :: vs).map elementOf, none) := by
  refine splitElements_of_spells ?_ (List.cons_ne_nil _ _)
  rw [List.forall₂_map_left_iff, List.forall₂_map_right_iff, List.forall₂_same]
  exact fun item _ => spells_writtenItem item

theorem writeElement_ne_nil (cs : List Char) : writeElement cs ≠ [] := by
  intro h
  rw [writeElement] at h
  split at h
  · exact List.cons_ne_nil _ _ h
  · next hq => exact hq (by rw [h]; rfl)

theorem writtenItem_ne_nil (v : Value) : writtenItem v ≠ [] := by
  cases v with
  | null => exact List.cons_ne_nil _ _
  | _ => exact writeElement_ne_nil _

/-- An item of an array is read back by its type. -/
theorem readElement_elementOf {v : Value} {type : ScalarType} (htype : type ∈ exactTypes)
    (hv : v = .null ∨ v.scalarType? = some type) : readElement type (elementOf v) = .ok v.onClock := by
  by_cases hnull : v = .null
  · rw [hnull]
    rfl
  · -- A text that spells null is quoted, so that an element without quotes is no null.
    have hplain : (!isQuotedElement (writeChars v) && eqIgnoreCase (writeChars v) "NULL".toList) = false := by
      rw [isQuotedElement]
      cases eqIgnoreCase (writeChars v) "NULL".toList <;> simp
    have helement : elementOf v = ⟨isQuotedElement (writeChars v), writeChars v⟩ := by
      cases v with
      | null => exact absurd rfl hnull
      | _ => rfl
    rw [helement, readElement, if_neg (Bool.eq_false_iff.1 hplain)]
    exact readScalar_write htype (hv.resolve_left hnull)

/-- An array of nulls and scalars of one type is read back by that type. -/
theorem readArray_write {items : List Value} {type : ScalarType} (htype : type ∈ exactTypes)
    (hitems : ∀ v ∈ items, v = .null ∨ v.scalarType? = some type) :
    readArray type (write (.array items)) = .ok (Value.array items).onClock := by
  have hwrite : write (.array items) = String.ofList (inBraces (joinElements (items.map writtenItem))) := by
    rw [write, writeChars, writeElements_eq_map]
    rfl
  rw [hwrite]
  -- Only without items is there nothing between the braces.
  cases items with
  | nil => rfl
  | cons v vs =>
    have hread : (List.map elementOf (v :: vs)).mapM (readElement type) = .ok ((v :: vs).map Value.onClock) := by
      rw [mapM_eq_ok_iff, List.forall₂_map_left_iff, List.forall₂_map_right_iff, List.forall₂_same]
      exact fun item hitem => readElement_elementOf htype (hitems item hitem)
    have hne : joinElements ((v :: vs).map writtenItem) ≠ [] :=
      joinElements_ne_nil List.mem_cons_self (writtenItem_ne_nil v)
    rw [readArray_inBraces hne, readElements_of_splitElements (splitElements_joinElements v vs), hread,
      Value.onClock, Value.allOnClock_eq_map]
    rfl

/-! ## Values by the type that they have of their own -/

/-- Each of these types has an OID by which it is found again. -/
theorem scalarOfOid?_oid? : ∀ type ∈ exactTypes, ∃ oid ∈ (SqlType.scalar type).oid?,
    scalarOfOid? oid = some type := by
  decide

/-- Each array of these types has an OID by which the type of its elements is found again. -/
theorem elementOfOid?_oid? : ∀ type ∈ exactTypes, ∃ oid ∈ (SqlType.arrayOf type).oid?,
    scalarOfOid? oid = none ∧ elementOfOid? oid = some type := by
  decide

theorem oid_eq_ok {type : SqlType} {oid : Oid} (h : oid ∈ type.oid?) : type.oid = .ok oid := by
  rw [SqlType.oid, Option.mem_def.1 h]

/-- A text is decoded by the OID of a scalar as its type reads it. -/
theorem decode_scalar {type : ScalarType} {oid : Oid} {text : String} {v : Value}
    (hoid : scalarOfOid? oid = some type) (h : readScalar type text = .ok v) : decode oid text = .ok v := by
  rw [decode_of_scalarOfOid? hoid, h]
  rfl

/-- A text is decoded by the OID of an array as the type of its elements reads it. -/
theorem decode_array {type : ScalarType} {oid : Oid} {text : String} {v : Value}
    (hscalar : scalarOfOid? oid = none) (helement : elementOfOid? oid = some type)
    (h : readArray type text = .ok v) : decode oid text = .ok v := by
  rw [decode_of_elementOfOid? hscalar helement, h]
  rfl

/-- The type of a scalar is its scalar type. -/
theorem type_of_scalarType? {v : Value} {type : ScalarType} (hv : v.scalarType? = some type) :
    v.type = .scalar type := by
  cases v <;> cases hv <;> rfl

/-- An array of nulls and scalars of one type has that type, unless all of its items are null. -/
theorem type_array {items : List Value} {type : ScalarType}
    (hitems : ∀ v ∈ items, v = .null ∨ v.scalarType? = some type) :
    (Value.array items).type = .arrayOf type ∨
      (Value.array items).type = .arrayOf .text ∧ ∀ v ∈ items, v = .null := by
  rw [Value.type]
  cases hfind : items.find? fun v => !v.isNull with
  | none =>
    right
    refine ⟨rfl, fun v hv => ?_⟩
    simpa using List.find?_eq_none.1 hfind v hv
  | some v =>
    left
    -- The first item that is not null decides about the type.
    have hsome : v.isNull = false := by simpa using List.find?_some hfind
    have htype : v.scalarType? = some type :=
      (hitems v (List.mem_of_find?_eq_some hfind)).resolve_left fun hnull => by
        rw [hnull] at hsome
        exact absurd hsome (by decide)
    rw [Option.bind_some, htype, Option.getD_some]

/-- A value that is written without loss: a scalar, or an array of nulls and scalars of one type. -/
inductive IsExact : Value → Prop
  | scalar {v : Value} {type : ScalarType} (htype : type ∈ exactTypes) (hv : v.scalarType? = some type) :
    IsExact v
  | array {items : List Value} {type : ScalarType} (htype : type ∈ exactTypes)
    (hitems : ∀ v ∈ items, v = .null ∨ v.scalarType? = some type) : IsExact (.array items)

/-- Such an array is read back by the OID of its own type. -/
theorem decode_write_array {items : List Value} {type : ScalarType} (htype : type ∈ exactTypes)
    (hown : (Value.array items).type = .arrayOf type)
    (hitems : ∀ v ∈ items, v = .null ∨ v.scalarType? = some type) :
    ∃ oid, (Value.array items).type.oid = .ok oid ∧
      decode oid (write (.array items)) = .ok (Value.array items).onClock := by
  obtain ⟨oid, hoid, hscalar, helement⟩ := elementOfOid?_oid? type htype
  refine ⟨oid, ?_, decode_array hscalar helement (readArray_write htype hitems)⟩
  rw [hown, oid_eq_ok hoid]

/-- A value that is written without loss has a type with an OID, and from its text that OID reads the value with each
of its times as a clock shows it. That is the value itself if each of its leap seconds ends a minute. -/
theorem decode_write {v : Value} (h : IsExact v) :
    ∃ oid, v.type.oid = .ok oid ∧ decode oid (write v) = .ok v.onClock ∧
      (v.onClock = v ↔ ∀ t ∈ v.times, t.IsOnClock) := by
  have hread : ∃ oid, v.type.oid = .ok oid ∧ decode oid (write v) = .ok v.onClock := by
    cases h with
    | @scalar _ type htype hv =>
      obtain ⟨oid, hoid, hscalar⟩ := scalarOfOid?_oid? type htype
      refine ⟨oid, ?_, decode_scalar hscalar (readScalar_write htype hv)⟩
      rw [type_of_scalarType? hv, oid_eq_ok hoid]
    | array htype hitems =>
      obtain hown | ⟨hown, hnull⟩ := type_array hitems
      · exact decode_write_array htype hown hitems
      · -- Nulls alone are items of an array of texts as well.
        exact decode_write_array (by decide) hown fun v hv => .inl (hnull v hv)
  obtain ⟨oid, hoid, hdecode⟩ := hread
  exact ⟨oid, hoid, hdecode, v.onClock_eq_self_iff⟩

/-- Texts that are hard to tell apart in an array: one that spells null beside a null, an empty one, and one
with quotes, commas, braces and a blank at its end. -/
theorem decode_write_texts :
    let v : Value := .array
      [.text "null", .null, .text "", .text "a\"b\\", .text ",\x7b\x7d", .text "é\u2003"]
    IsExact v ∧ ∃ oid, v.type.oid = .ok oid ∧ decode oid (write v) = .ok v := by
  intro v
  have h : IsExact v := .array (show ScalarType.text ∈ exactTypes by decide) (by simp [Value.scalarType?])
  obtain ⟨oid, hoid, hdecode, hclock⟩ := decode_write h
  have hsame : v.onClock = v := hclock.2 (by simp [v, Value.times, Value.allTimes])
  rw [hsame] at hdecode
  exact ⟨h, oid, hoid, hdecode⟩

/-- A leap second within a minute is written as the second that comes next, and read as that. -/
theorem decode_write_within_minute :
    let v : Value := .time ⟨86164, 1333333333, by decide⟩
    IsExact v ∧ write v = "23:56:05.333333333" ∧ ¬∃ oid, v.type.oid = .ok oid ∧ decode oid (write v) = .ok v := by
  intro v
  have hread : decode 1083 (write v) = .ok (.time ⟨86165, 333333333, by decide⟩) :=
    decode_scalar (by decide) (readScalar_write (v := v) (show ScalarType.time ∈ exactTypes by decide) rfl)
  refine ⟨.scalar (show ScalarType.time ∈ exactTypes by decide) rfl, by decide +kernel, ?_⟩
  rintro ⟨oid, hoid, hsame⟩
  have hown : v.type.oid = .ok 1083 := rfl
  obtain rfl : 1083 = oid := Except.ok.inj (hown.symm.trans hoid)
  exact absurd (Value.time.inj (Except.ok.inj (hread.symm.trans hsame))) (by decide)

end TextFormat

end InProcessSql
