import Mathlib
import InProcessSql.Executor.Native
import InProcessSql.Proofs.Executor.Words
import InProcessSql.Proofs.TextFormat.Rereading

/-!
# Values that the native executor hands over and back

A value is handed over by the OID of the type that it has of its own, and read from what was made of it by the
same OID. Either the word is the value, and the native layer is not called at all; or the layer is given the
text of the value, and asked for it again. `ByValue.IsByValue` tells the two apart in both directions.
-/

namespace InProcessSql

open InProcessSql.Text

namespace ByValue

/-! ## Types that are handed over by value -/

/-- The scalar types that are handed over by value. -/
def types : List ScalarType :=
  [.boolean, .smallint, .integer, .bigint, .oid, .xid, .cid, .real, .double, .date, .time, .timestamp,
   .timestamptz]

/-- The OIDs of types that are handed over by value. -/
def IsByValue (oid : Oid) : Prop := ∃ type ∈ types, scalarOfOid? oid = some type

/-- Whether a scalar is handed over by value depends on its type. -/
theorem isByValue_iff {oid : Oid} {type : ScalarType} (h : scalarOfOid? oid = some type) :
    IsByValue oid ↔ type ∈ types := by
  constructor
  · rintro ⟨found, hfound, hoid⟩
    rw [h, Option.some.injEq] at hoid
    rwa [hoid]
  · exact fun htype => ⟨type, htype, h⟩

/-- Only scalars are handed over by value. -/
theorem not_isByValue_of_none {oid : Oid} (h : scalarOfOid? oid = none) : ¬IsByValue oid := by
  rintro ⟨type, -, hoid⟩
  rw [h] at hoid
  cases hoid

/-- The decoder knows exactly these types. -/
theorem decodeScalar?_eq_none_iff {oid : Oid} {type : ScalarType} {w : Word} :
    decodeScalar? oid w type = none ↔ type ∉ types := by
  cases type <;> simp [decodeScalar?, types]

/-- The encoder knows no other types. -/
theorem encodeScalar?_eq_none {oid : Oid} {type : ScalarType} (h : type ∉ types) (v : Value) :
    encodeScalar? oid type v = none := by
  revert h
  fun_cases encodeScalar? oid type v <;> simp [types]

/-- Words of these types are read as values, and words of other types are not. -/
theorem decode?_eq_none_iff {oid : Oid} {w : Word} : decode? w oid = none ↔ ¬IsByValue oid := by
  cases hoid : scalarOfOid? oid with
  | none =>
    rw [decode?, hoid, Option.bind_none]
    exact iff_of_true rfl (not_isByValue_of_none hoid)
  | some type => rw [decode?_of_scalarOfOid? hoid, decodeScalar?_eq_none_iff, isByValue_iff hoid]

/-- No value is a word of another type. -/
theorem encode?_eq_none {oid : Oid} (h : ¬IsByValue oid) (v : Value) : encode? v oid = none := by
  cases hoid : scalarOfOid? oid with
  | none => rw [encode?, hoid, Option.bind_none]
  | some type =>
    rw [encode?_of_scalarOfOid? hoid]
    exact encodeScalar?_eq_none ((isByValue_iff hoid).not.1 h) v

/-- A value is a word of its own type, if that is handed over by value. -/
theorem exists_encodeScalar? {v : Value} {type : ScalarType} (hv : v.scalarType? = some type)
    (htype : type ∈ types) (oid : Oid) : ∃ w, encodeScalar? oid type v = some (.ok w) := by
  cases v <;> cases hv <;> first | exact ⟨_, rfl⟩ | exact absurd htype (by decide)

/-- The words of its own type hold a value but for what is not a whole microsecond. -/
theorem throughWord_of_scalarType? {v : Value} {type : ScalarType} (hv : v.scalarType? = some type) :
    v.throughWord type = v.wholeMicros := by
  cases v <;> cases hv <;> rfl

end ByValue

/-! ## Native texts -/

namespace Text

theorem zero_eq_ofNat_iff {n : Nat} : 0 = UInt8.ofNat n ↔ n % 256 = 0 := by
  rw [← UInt8.toNat_inj, UInt8.toNat_ofNat']
  exact eq_comm

/-- Only the zero character has a zero byte. -/
theorem eq_zero_of_mem_utf8EncodeChar {c : Char} (h : 0 ∈ String.utf8EncodeChar c) : c = '\x00' := by
  have hvalid : c.val.toNat < 1114112 := by
    have := c.valid
    simp only [UInt32.isValidChar, Nat.isValidChar] at this
    omega
  apply Char.ext
  apply UInt32.toNat_inj.1
  show c.val.toNat = 0
  simp only [String.utf8EncodeChar] at h
  split_ifs at h <;>
    simp only [List.mem_cons, List.not_mem_nil, or_false, zero_eq_ofNat_iff] at h <;> omega

/-- A text without zero characters has no zero byte. -/
theorem zero_notMem_toBytes {s : String} (h : '\x00' ∉ s.toList) : 0 ∉ toBytes s := by
  rw [toBytes_eq_flatMap, List.mem_flatMap]
  rintro ⟨c, hc, hzero⟩
  rw [eq_zero_of_mem_utf8EncodeChar hzero] at hc
  exact h hc

/-- Bytes that are those of a text up to the first zero byte are read as that text. -/
theorem ofNative_of_takeWhile_eq {bytes : List UInt8} {s : String}
    (h : bytes.takeWhile (· != 0) = toBytes s) : ofNative bytes = s := by
  rw [ofNative, h, ofBytes_toBytes]

end Text

namespace Native

/-- A text without zero characters has no position of one. -/
theorem nulPosition?_eq_none {s : String} (h : '\x00' ∉ s.toList) : nulPosition? s = none := by
  have hall : s.toList.takeWhile (· != '\x00') = s.toList := by
    rw [List.takeWhile_eq_self_iff]
    intro c hc
    rw [bne_iff_ne]
    rintro rfl
    exact h hc
  rw [nulPosition?]
  simp only [hall, Nat.lt_irrefl, if_false]

/-- A text with a zero character has a position of one. -/
theorem exists_nulPosition? {s : String} (h : '\x00' ∈ s.toList) : ∃ position, nulPosition? s = some position := by
  have hstart := List.takeWhile_prefix (l := s.toList) (· != '\x00')
  have hlt : (s.toList.takeWhile (· != '\x00')).length < s.toList.length := by
    refine Nat.lt_of_le_of_ne hstart.length_le fun heq => ?_
    have hall := List.takeWhile_eq_self_iff.1 (hstart.eq_of_length heq) _ h
    exact absurd hall (by decide)
  rw [nulPosition?]
  exact ⟨_, if_pos hlt⟩

variable {σ : Type} [NativeLayer σ]

/-! ## Values that are words -/

/-- A value is written by its word, without the layer, if the type takes it by value. -/
theorem writeDatum_of_encode? {v : Value} {oid : Oid} {r : Except Error Word}
    (h : ByValue.encode? v oid = some r) (s : σ) : writeDatum v oid s = (r, s) := by
  simp only [writeDatum, h, Step.ofExcept_apply]

/-- A word is read as the value that it is, without the layer. -/
theorem readDatum_of_decode? {w : Word} {oid : Oid} {r : Except Error Value}
    (h : ByValue.decode? w oid = some r) (s : σ) : readDatum w oid s = (.value r, s) := by
  simp only [readDatum, h]

/-! ## Values that the layer keeps as texts -/

/-- The layer gives back each text that it makes a word of, for types that are not handed over by value. -/
def KeepsTexts (σ : Type) [NativeLayer σ] : Prop :=
  ∀ (text : String) (oid : Oid) (s : σ), ¬ByValue.IsByValue oid → '\x00' ∉ text.toList →
    let kept := NativeLayer.wordOfText text oid s
    ∃ bytes u, NativeLayer.textOfWord kept.1 oid kept.2 = (some bytes, u) ∧
      bytes.takeWhile (· != 0) = toBytes text

/-- Such a layer has the text again when its word is read. -/
theorem readDatum_wordOfText (h : KeepsTexts σ) {text : String} {oid : Oid}
    (hoid : ¬ByValue.IsByValue oid) (hnul : '\x00' ∉ text.toList) (s : σ) :
    let kept := NativeLayer.wordOfText text oid s
    (readDatum kept.1 oid kept.2).1 = .text text := by
  intro kept
  obtain ⟨bytes, u, hbytes, htext⟩ := h text oid s hoid hnul
  rw [readDatum, ByValue.decode?_eq_none_iff.2 hoid]
  simp only [kept, hbytes, ofNative_of_takeWhile_eq htext]

/-- A text with a zero character is refused, and the layer is not called. -/
theorem writeDatum_of_mem {v : Value} {oid : Oid} (hoid : ¬ByValue.IsByValue oid)
    (h : '\x00' ∈ (TextFormat.write v).toList) :
    ∃ position, ∀ {σ : Type} [NativeLayer σ] (s : σ),
      writeDatum v oid s = (.error (.interiorNul position), s) := by
  obtain ⟨position, hposition⟩ := exists_nulPosition? h
  refine ⟨position, fun s => ?_⟩
  simp only [writeDatum, ByValue.encode?_eq_none hoid, withText, hposition, Step.fail_apply]

/-- Any other text is handed to the layer. -/
theorem writeDatum_of_notMem {v : Value} {oid : Oid} (hoid : ¬ByValue.IsByValue oid)
    (h : '\x00' ∉ (TextFormat.write v).toList) (s : σ) :
    writeDatum v oid s = Step.total (NativeLayer.wordOfText (TextFormat.write v) oid) s := by
  simp only [writeDatum, ByValue.encode?_eq_none hoid, withText, nulPosition?_eq_none h]

/-! ## Values by the type that they have of their own -/

/-- A value that is not null: a scalar, or an array of nulls and scalars of one type, which is not a
floating-point type. -/
inductive IsPlain : Value → Prop
  | scalar {v : Value} {type : ScalarType} (hnull : v.isNull = false) (hv : v.scalarType? = some type) :
    IsPlain v
  | array {items : List Value} {type : ScalarType} (htype : type ∈ TextFormat.exactTypes)
    (hitems : ∀ v ∈ items, v = .null ∨ v.scalarType? = some type) : IsPlain (.array items)

/-- The scalar types that values have of their own. -/
def ownTypes : List ScalarType := .real :: .double :: TextFormat.exactTypes

theorem mem_ownTypes {v : Value} {type : ScalarType} (hnull : v.isNull = false)
    (hv : v.scalarType? = some type) : type ∈ ownTypes := by
  cases v <;> cases hv <;> first | exact absurd hnull (by decide) | decide

/-- Each of these types has an OID by which it is found again. -/
theorem exists_oid_of_mem_ownTypes : ∀ type ∈ ownTypes, ∃ oid ∈ (SqlType.scalar type).oid?,
    scalarOfOid? oid = some type := by
  decide

/-- What is not written without loss is handed over by value. -/
theorem mem_exactTypes : ∀ type ∈ ownTypes, type ∉ ByValue.types → type ∈ TextFormat.exactTypes := by
  decide

/-- An array of nulls and scalars of one type is an array of the type that it has of its own. -/
theorem exists_type_array {items : List Value} {type : ScalarType} (htype : type ∈ TextFormat.exactTypes)
    (hitems : ∀ v ∈ items, v = .null ∨ v.scalarType? = some type) :
    ∃ own ∈ TextFormat.exactTypes, (Value.array items).type = .arrayOf own ∧
      ∀ v ∈ items, v = .null ∨ v.scalarType? = some own := by
  obtain hown | ⟨hown, hnull⟩ := TextFormat.type_array hitems
  · exact ⟨type, htype, hown, hitems⟩
  · exact ⟨.text, by decide, hown, fun v hv => .inl (hnull v hv)⟩

/-- The type that a value has of its own has an OID. By that OID either the value is a scalar that is handed
over by value, or it is read back from its text, with its times as clocks show them. -/
theorem exists_oid {v : Value} (h : IsPlain v) :
    ∃ oid, v.type.oid = .ok oid ∧
      (ByValue.IsByValue oid → ∃ type, scalarOfOid? oid = some type ∧ v.scalarType? = some type) ∧
      (¬ByValue.IsByValue oid → TextFormat.decode oid (TextFormat.write v) = .ok v.onClock) := by
  cases h with
  | @scalar _ type hnull hv =>
    have hown := mem_ownTypes hnull hv
    obtain ⟨oid, hoid, hscalar⟩ := exists_oid_of_mem_ownTypes type hown
    refine ⟨oid, ?_, fun _ => ⟨type, hscalar, hv⟩, fun hno => ?_⟩
    · rw [TextFormat.type_of_scalarType? hv, TextFormat.oid_eq_ok hoid]
    · have htype := mem_exactTypes type hown ((ByValue.isByValue_iff hscalar).not.1 hno)
      exact TextFormat.decode_scalar hscalar (TextFormat.readScalar_write htype hv)
  | array htype hitems =>
    obtain ⟨own, hmem, hown, hitems⟩ := exists_type_array htype hitems
    obtain ⟨oid, hoid, hscalar, helement⟩ := TextFormat.elementOfOid?_oid? own hmem
    refine ⟨oid, ?_, fun hyes => absurd hyes (ByValue.not_isByValue_of_none hscalar), fun _ => ?_⟩
    · rw [hown, TextFormat.oid_eq_ok hoid]
    · exact TextFormat.decode_array hscalar helement (TextFormat.readArray_write hmem hitems)

/-- A value is handed over by the OID of its own type and read back by it. If that is handed over by value,
the layer is called neither for the one nor for the other, and the value comes back but for what is not a
whole microsecond, unless it tells a leap second. Otherwise a value whose text holds a zero character fails,
and the layer is not called; any other value comes back from a layer that keeps texts, with each of its times as a clock
shows it. That is the value itself if each of its leap seconds ends a minute. -/
theorem readDatum_writeDatum {v : Value} (h : IsPlain v) :
    ∃ oid, v.type.oid = .ok oid ∧
      (ByValue.IsByValue oid → ∃ w, ∀ {σ : Type} [NativeLayer σ] (s : σ),
        writeDatum v oid s = (.ok w, s) ∧
          (v.isLeap = false → readDatum w oid s = (.value (.ok v.wholeMicros), s))) ∧
      (¬ByValue.IsByValue oid →
        ('\x00' ∈ (TextFormat.write v).toList → ∃ position, ∀ {σ : Type} [NativeLayer σ] (s : σ),
          writeDatum v oid s = (.error (.interiorNul position), s)) ∧
        ('\x00' ∉ (TextFormat.write v).toList → ∀ {σ : Type} [NativeLayer σ] (s : σ),
          ∃ w t, writeDatum v oid s = (.ok w, t) ∧
            (KeepsTexts σ → (readDatum w oid t).1.result oid = .ok v.onClock))) ∧
      (v.onClock = v ↔ ∀ t ∈ v.times, t.IsOnClock) := by
  obtain ⟨oid, hoid, hscalar, hdecode⟩ := exists_oid h
  refine ⟨oid, hoid, fun hyes => ?_, fun hno => ⟨writeDatum_of_mem hno, fun hnul σ _ s => ?_⟩,
    v.onClock_eq_self_iff⟩
  · obtain ⟨type, htype, hv⟩ := hscalar hyes
    obtain ⟨w, hw⟩ := ByValue.exists_encodeScalar? hv ((ByValue.isByValue_iff htype).1 hyes) oid
    refine ⟨w, fun s => ⟨writeDatum_of_encode? ?_ s, fun hleap => readDatum_of_decode? ?_ s⟩⟩
    · rw [ByValue.encode?_of_scalarOfOid? htype, hw]
    · rw [ByValue.decode?_of_scalarOfOid? htype, ByValue.decodeScalar?_encodeScalar? hw hleap,
        ByValue.throughWord_of_scalarType? hv]
  · refine ⟨_, _, writeDatum_of_notMem hno hnul s, fun hkeeps => ?_⟩
    have hread := readDatum_wordOfText hkeeps hno hnul s
    rw [hread]
    exact hdecode hno

/-- A native layer that only keeps texts, each behind a word of its own and with a zero byte at its end. -/
structure TextHeap where
  cells : List (Word × List UInt8)

instance : NativeLayer TextHeap where
  Plan := Empty
  Portal := Empty
  ready s := (true, s)
  prepare _ _ s := ((-1, none), s)
  execute _ _ _ s := (-1, s)
  executePlan plan := plan.elim
  openCursor plan := plan.elim
  fetch portal := portal.elim
  dimensions s := ((0, 0), s)
  columns s := ([], s)
  table s := ([], s)
  finish _ := ⟨[]⟩
  textOfWord w _ s := (s.cells.lookup w, s)
  wordOfText text _ s :=
    let w := UInt64.ofNat (s.cells.length + 1)
    (w, ⟨(w, toBytes text ++ [0]) :: s.cells⟩)

/-- Such a layer gives back each text up to its zero byte. -/
theorem keepsTexts_textHeap : KeepsTexts TextHeap := by
  intro text oid s _ hnul
  refine ⟨toBytes text ++ [0], _, Prod.ext List.lookup_cons_self rfl, ?_⟩
  have hbytes : ∀ b ∈ toBytes text, (b != 0) = true := by
    intro b hb
    rw [bne_iff_ne]
    rintro rfl
    exact zero_notMem_toBytes hnul hb
  rw [List.takeWhile_append_of_pos hbytes]
  simp

/-- An array of texts comes back from such a layer, and a time comes back in whole microseconds from its word. -/
theorem readDatum_writeDatum_texts :
    let v : Value := .array [.text "null", .null, .text "é"]
    let noon : Value := .time ⟨43200, 1999, by decide⟩
    IsPlain v ∧ IsPlain noon ∧
      (∃ w t, writeDatum v 1009 (⟨[]⟩ : TextHeap) = (.ok w, t) ∧
        (readDatum w 1009 t).1.result 1009 = .ok v) ∧
      ∃ w, ∀ s : TextHeap, writeDatum noon 1083 s = (.ok w, s) ∧
        readDatum w 1083 s = (.value (.ok (.time ⟨43200, 1000, by decide⟩)), s) := by
  intro v noon
  have hv : IsPlain v :=
    .array (show ScalarType.text ∈ TextFormat.exactTypes by decide) (by simp [Value.scalarType?])
  have hnoon : IsPlain noon := .scalar rfl rfl
  refine ⟨hv, hnoon, ?_, ?_⟩
  · obtain ⟨oid, hoid, -, htexts, hclock⟩ := readDatum_writeDatum hv
    have hsame : v.onClock = v := hclock.2 (by simp [v, Value.times, Value.allTimes])
    have hown : v.type.oid = .ok 1009 := rfl
    obtain rfl : 1009 = oid := Except.ok.inj (hown.symm.trans hoid)
    have hnul : '\x00' ∉ (TextFormat.write v).toList := by decide +kernel
    obtain ⟨w, t, hwrite, hread⟩ :=
      (htexts (ByValue.not_isByValue_of_none (by decide))).2 hnul (⟨[]⟩ : TextHeap)
    rw [hsame] at hread
    exact ⟨w, t, hwrite, hread keepsTexts_textHeap⟩
  · obtain ⟨oid, hoid, hwords, -⟩ := readDatum_writeDatum hnoon
    have hown : noon.type.oid = .ok 1083 := rfl
    obtain rfl : 1083 = oid := Except.ok.inj (hown.symm.trans hoid)
    obtain ⟨w, hw⟩ := hwords ⟨.time, by decide, by decide⟩
    exact ⟨w, fun s => ⟨(hw s).1, (hw s).2 rfl⟩⟩

/-- An array of a leap second within a minute comes back from such a layer as one of the second that comes next. -/
theorem readDatum_writeDatum_within_minute :
    let v : Value := .array [.time ⟨86164, 1333333333, by decide⟩]
    let next : Value := .array [.time ⟨86165, 333333333, by decide⟩]
    IsPlain v ∧ v.type.oid = .ok 1183 ∧ ¬ByValue.IsByValue 1183 ∧ KeepsTexts TextHeap ∧
      '\x00' ∉ (TextFormat.write v).toList ∧
      ∃ w t, writeDatum v 1183 (⟨[]⟩ : TextHeap) = (.ok w, t) ∧ (readDatum w 1183 t).1.result 1183 = .ok next ∧
        (readDatum w 1183 t).1.result 1183 ≠ .ok v := by
  intro v next
  have htype : ScalarType.time ∈ TextFormat.exactTypes := by decide
  have hitems : ∀ item ∈ [Value.time ⟨86164, 1333333333, by decide⟩],
      item = .null ∨ item.scalarType? = some .time := by
    simp [Value.scalarType?]
  have hoid : ¬ByValue.IsByValue 1183 := ByValue.not_isByValue_of_none (by decide)
  have hnul : '\x00' ∉ (TextFormat.write v).toList := by decide +kernel
  have hdecode : TextFormat.decode 1183 (TextFormat.write v) = .ok next :=
    TextFormat.decode_array (by decide) (by decide) (TextFormat.readArray_write htype hitems)
  have hread := readDatum_wordOfText keepsTexts_textHeap hoid hnul (⟨[]⟩ : TextHeap)
  refine ⟨.array htype hitems, rfl, hoid, keepsTexts_textHeap, hnul, _, _, writeDatum_of_notMem hoid hnul _, ?_, ?_⟩
  · rw [hread]
    exact hdecode
  · rw [hread]
    show TextFormat.decode 1183 (TextFormat.write v) ≠ .ok v
    rw [hdecode]
    intro h
    exact absurd (Value.time.inj (List.head_eq_of_cons_eq (Value.array.inj (Except.ok.inj h)))) (by decide)

end Native

end InProcessSql
