import Mathlib
import InProcessSql.Executor.ByValue
import InProcessSql.Proofs.Calendar.Words

/-!
# Values in words

What comes back from the word of a value is the value in the words of the type: an integer or a floating-point
number as wide as the type, a time in whole microseconds, anything else as it was.
-/

namespace InProcessSql

open InProcessSql.Calendar InProcessSql.Floating

namespace ByValue

/-! ## Bits of a word -/

/-- The word of an integer is its remainder. -/
theorem toNat_ofInt (n : Int) : ((ofInt n).toNat : Int) = n % (2 ^ 64 : Nat) := by
  have hlo : 0 ≤ n % 2 ^ 64 := Int.emod_nonneg n (by decide)
  have hhi : n % 2 ^ 64 < 2 ^ 64 := Int.emod_lt_of_pos n (by decide)
  have hword : (ofInt n).toNat = (n % 2 ^ 64).toNat :=
    (UInt64.toNat_ofNat_of_lt (show (n % 2 ^ 64).toNat < 2 ^ 64 by omega))
  rw [hword, Int.toNat_of_nonneg hlo]
  rfl

/-- The low bits of the word of an integer are those of the integer. -/
theorem toNat_ofInt_emod {bits : Nat} (hbits : bits ≤ 64) (n : Int) :
    ((ofInt n).toNat : Int) % (2 ^ bits : Nat) = n % (2 ^ bits : Nat) := by
  rw [toNat_ofInt]
  exact Int.emod_emod_of_dvd n (Int.natCast_dvd_natCast.2 (Nat.pow_dvd_pow 2 hbits))

/-- An integer comes back from the low bits that it fits in. -/
theorem signedBits_ofInt {bits : Nat} {n : Int} (hbits : bits ≤ 63) (hlo : -2 ^ bits ≤ n)
    (hhi : n < 2 ^ bits) : signedBits (bits + 1) (ofInt n) = n := by
  have hpow : ((2 ^ (bits + 1) : Nat) : Int) = 2 * 2 ^ bits := by
    rw [Int.natCast_pow, pow_succ, mul_comm]
    rfl
  have hmod : signedBits (bits + 1) (ofInt n) = n.bmod (2 ^ (bits + 1)) := by
    show Int.bmod (ofInt n).toNat (2 ^ (bits + 1)) = _
    rw [← Int.emod_bmod, toNat_ofInt_emod (by omega), Int.emod_bmod]
  rw [hmod]
  exact Int.bmod_eq_of_le (by omega) (by omega)

/-- A natural number comes back from the low bits that it fits in. -/
theorem lowBits_ofInt {bits : Nat} {n : Int} (hbits : bits ≤ 64) (hlo : 0 ≤ n)
    (hhi : n < (2 ^ bits : Nat)) : (lowBits bits (ofInt n) : Int) = n := by
  show (((ofInt n).toNat % 2 ^ bits : Nat) : Int) = n
  rw [Int.natCast_emod, toNat_ofInt_emod hbits, Int.emod_eq_of_lt hlo hhi]

theorem signedBits_int16 (n : Int16) : signedBits 16 (ofInt n.toInt) = n.toInt :=
  signedBits_ofInt (show 15 ≤ 63 by decide) n.le_toInt n.toInt_lt

theorem signedBits_int32 (n : Int32) : signedBits 32 (ofInt n.toInt) = n.toInt :=
  signedBits_ofInt (show 31 ≤ 63 by decide) n.le_toInt n.toInt_lt

theorem signedBits_int64 (n : Int64) : signedBits 64 (ofInt n.toInt) = n.toInt :=
  signedBits_ofInt (show 63 ≤ 63 by decide) n.le_toInt n.toInt_lt

/-- The days to a date come back from their word. -/
theorem signedBits_date (d : Date) : signedBits 32 (ofInt (d.dayNumber - epochDay)) = d.dayNumber - epochDay := by
  obtain ⟨hlo, hhi⟩ := d.dayNumber_mem
  apply signedBits_ofInt (show 31 ≤ 63 by decide) <;> simp only [epochDay] <;> omega

/-- The microseconds to a time come back from their word. -/
theorem signedBits_time (t : TimeOfDay) : signedBits 64 (ofInt t.micros) = t.micros := by
  obtain ⟨hseconds, hnanos⟩ := t.exists_time
  apply signedBits_ofInt (show 63 ≤ 63 by decide) <;> simp only [TimeOfDay.micros] <;> omega

/-- The microseconds to a timestamp come back from their word. -/
theorem signedBits_timestamp (t : DateTime) : signedBits 64 (ofInt t.micros) = t.micros := by
  obtain ⟨hlo, hhi⟩ := t.micros_mem
  simp only [epochMicros] at hhi
  apply signedBits_ofInt (show 63 ≤ 63 by decide) <;> omega

end ByValue

/-! ## What comes back from a word -/

namespace Value

/-- Whether a value tells a leap second. -/
def isLeap : Value → Bool
  | time t => t.isLeap
  | timestamp t => t.time.isLeap
  | timestamptz t => t.time.isLeap
  | _ => false

/-- The value with its time cut down to whole microseconds. -/
def wholeMicros : Value → Value
  | time t => time t.wholeMicros
  | timestamp t => timestamp t.wholeMicros
  | timestamptz t => timestamptz t.wholeMicros
  | v => v

/-- The value as a word of a type holds it: integers and floating-point numbers are as wide as the type, and
times are cut down to whole microseconds. -/
def throughWord : ScalarType → Value → Value
  | .integer, int2 n => int4 n.toInt32
  | .bigint, int2 n => int8 n.toInt64
  | .bigint, int4 n => int8 n.toInt64
  | .double, float4 x => float8 x.widen
  | _, v => v.wholeMicros

end Value

namespace ByValue

/-- A word of 32 bits has room for exactly the integers of 32 bits that are not negative. -/
theorem unsigned_eq_error_iff {oid : Oid} {n : Int64} :
    encodeScalar?.unsigned oid n = .error (.decode oid .outOfRange) ↔
      ¬(0 ≤ n.toInt ∧ n.toInt ≤ 2 ^ 32 - 1) := by
  have hpow : ((Nat.pow 2 32 : Nat) : Int) = 2 ^ 32 := rfl
  rw [encodeScalar?.unsigned]
  split
  · next hrange => exact ⟨nofun, fun hno => absurd ⟨hrange.1, by omega⟩ hno⟩
  · next hrange => exact ⟨fun _ hno => hrange ⟨hno.1, by omega⟩, fun _ => rfl⟩

/-- Such an integer comes back from its word. -/
theorem ofInt_lowBits_of_unsigned {oid : Oid} {n : Int64} {w : Word}
    (h : encodeScalar?.unsigned oid n = .ok w) : Int64.ofInt (lowBits 32 w) = n := by
  rw [encodeScalar?.unsigned] at h
  split at h
  · next hrange =>
    cases h
    rw [lowBits_ofInt (by decide) hrange.1 hrange.2, Int64.ofInt_toInt]
  · cases h

/-- Outside leap seconds a word is decoded as the value that it was encoded from, as the word holds it. -/
theorem decodeScalar?_encodeScalar? {oid : Oid} {type : ScalarType} {v : Value} {w : Word}
    (h : encodeScalar? oid type v = some (.ok w)) (hleap : v.isLeap = false) :
    decodeScalar? oid w type = some (.ok (v.throughWord type)) := by
  revert h hleap
  fun_cases encodeScalar? oid type v <;> intro h hleap
  case case1 b =>
    cases h
    cases b <;> rfl
  case case2 n =>
    cases h
    rw [decodeScalar?, signedBits_int16, Int16.ofInt_toInt]
    rfl
  case case3 n =>
    cases h
    have hn := signedBits_int32 n.toInt32
    rw [Int16.toInt_toInt32] at hn
    rw [decodeScalar?, hn, Int32.ofInt_int16ToInt]
    rfl
  case case4 n =>
    cases h
    rw [decodeScalar?, signedBits_int32, Int32.ofInt_toInt]
    rfl
  case case5 n =>
    cases h
    have hn := signedBits_int64 n.toInt64
    rw [Int16.toInt_toInt64] at hn
    rw [decodeScalar?, hn, Int64.ofInt_int16ToInt]
    rfl
  case case6 n =>
    cases h
    have hn := signedBits_int64 n.toInt64
    rw [Int32.toInt_toInt64] at hn
    rw [decodeScalar?, hn, Int64.ofInt_int32ToInt]
    rfl
  case case7 n =>
    cases h
    rw [decodeScalar?, signedBits_int64, Int64.ofInt_toInt]
    rfl
  case case8 n | case9 n | case10 n =>
    rw [decodeScalar?, ofInt_lowBits_of_unsigned (Option.some.inj h)]
    rfl
  case case11 x =>
    cases h
    -- A word of 32 bits fills the low half, so that nothing of it is cut off.
    have hword : UInt32.ofNat (lowBits 32 x.word.toUInt64) = x.word := by
      rw [lowBits, UInt32.toNat_toUInt64]
      exact (congrArg UInt32.ofNat (Nat.mod_eq_of_lt x.word.toNat_lt)).trans (UInt32.ofNat_toNat)
    rw [decodeScalar?, hword]
    rfl
  case case12 x =>
    cases h
    rfl
  case case13 x =>
    cases h
    rfl
  case case14 d =>
    cases h
    rw [decodeScalar?, signedBits_date, Int.sub_add_cancel, Date.ofDayNumber_dayNumber]
    rfl
  case case15 t =>
    cases h
    rw [decodeScalar?, signedBits_time, TimeOfDay.ofMicros?_micros hleap]
    rfl
  case case16 t | case17 t =>
    cases h
    rw [decodeScalar?, signedBits_timestamp, DateTime.ofMicros?_micros hleap]
    rfl
  case case18 => cases h

/-- Only scalars are written as words. -/
theorem encode?_eq_some {v : Value} {oid : Oid} {result : Except Error Word}
    (h : encode? v oid = some result) :
    ∃ type, scalarOfOid? oid = some type ∧ encodeScalar? oid type v = some result :=
  Option.bind_eq_some_iff.1 h

theorem encode?_of_scalarOfOid? {oid : Oid} {type : ScalarType} (h : scalarOfOid? oid = some type)
    (v : Value) : encode? v oid = encodeScalar? oid type v := by
  rw [encode?, h, Option.bind_some]

theorem decode?_of_scalarOfOid? {oid : Oid} {type : ScalarType} (h : scalarOfOid? oid = some type)
    (w : Word) : decode? w oid = decodeScalar? oid w type := by
  rw [decode?, h, Option.bind_some]

/-- A word of a type is decoded as the value that it was encoded from, in the words of the type, unless that
tells a leap second. Between the days and timestamps of the calendar and their words no step of the count
leaves its word. An integer has no word as an identifier exactly if it is negative or of more than 32 bits. -/
theorem decode?_encode? :
    (∀ {v : Value} {oid : Oid} {w : Word}, encode? v oid = some (.ok w) → v.isLeap = false →
        ∃ type, scalarOfOid? oid = some type ∧ decode? w oid = some (.ok (v.throughWord type))) ∧
      (∀ d : Date, ∃ n, d.daysInWords = some n ∧ Date.ofDaysInWords n = some (some d) ∧
        ∀ oid, scalarOfOid? oid = some .date → encode? (.date d) oid = some (.ok (ofInt n))) ∧
      (∀ t : DateTime, ∃ n, t.microsInWords = some n ∧
        DateTime.ofMicrosInWords n = some (DateTime.ofMicros? n) ∧
        ∀ oid, (scalarOfOid? oid = some .timestamp → encode? (.timestamp t) oid = some (.ok (ofInt n))) ∧
          (scalarOfOid? oid = some .timestamptz → encode? (.timestamptz t) oid = some (.ok (ofInt n)))) ∧
      ∀ (n : Int64) (oid : Oid) (type : ScalarType), type ∈ [.oid, .xid, .cid] →
        scalarOfOid? oid = some type →
        (encode? (.int8 n) oid = some (.error (.decode oid .outOfRange)) ↔
          ¬(0 ≤ n.toInt ∧ n.toInt ≤ 2 ^ 32 - 1)) := by
  refine ⟨fun h hleap => ?_, fun d => ?_, fun t => ?_, fun n oid type htype hoid => ?_⟩
  · obtain ⟨type, hoid, hscalar⟩ := encode?_eq_some h
    refine ⟨type, hoid, ?_⟩
    rw [decode?_of_scalarOfOid? hoid]
    exact decodeScalar?_encodeScalar? hscalar hleap
  · exact ⟨_, d.daysInWords_eq, d.ofDaysInWords_eq, fun oid hoid => encode?_of_scalarOfOid? hoid _⟩
  · obtain ⟨hlo, hhi⟩ := t.micros_mem
    exact ⟨_, t.microsInWords_eq, DateTime.ofMicrosInWords_eq hlo hhi, fun oid =>
      ⟨fun hoid => encode?_of_scalarOfOid? hoid _, fun hoid => encode?_of_scalarOfOid? hoid _⟩⟩
  · have hunsigned : encode? (.int8 n) oid = some (encodeScalar?.unsigned oid n) := by
      rw [encode?_of_scalarOfOid? hoid]
      simp only [List.mem_cons, List.not_mem_nil, or_false] at htype
      obtain rfl | rfl | rfl := htype <;> rfl
    rw [hunsigned, Option.some.injEq, unsigned_eq_error_iff]

/-- The last nanosecond of the year 1999 comes back from its word as the last microsecond, and the greatest
number of 32 bits has a word as an identifier. -/
theorem decode?_encode?_before_epoch :
    let t : DateTime := ⟨⟨1999, 12, 31, by decide⟩, ⟨86399, 999999999, by decide⟩⟩
    let v : Value := .timestamp t
    encode? v 1114 = some (.ok (ofInt (-1))) ∧ v.isLeap = false ∧
      decode? (ofInt (-1)) 1114
        = some (.ok (.timestamp ⟨t.date, ⟨86399, 999999000, by decide⟩⟩)) ∧
      t.microsInWords = some (-1) ∧
      encode? (.int8 4294967295) 26 ≠ some (.error (.decode 26 .outOfRange)) := by
  intro t v
  obtain ⟨hdecode, -, hcount, hrange⟩ := decode?_encode?
  have hmicros : t.micros = -1 := by decide
  have htimestamp : scalarOfOid? 1114 = some .timestamp := by decide
  obtain ⟨n, hn, -, hword⟩ := hcount t
  obtain rfl : n = -1 := by
    rw [t.microsInWords_eq, hmicros] at hn
    exact (Option.some.inj hn).symm
  have hencode : encode? v 1114 = some (.ok (ofInt (-1))) := (hword 1114).1 htimestamp
  obtain ⟨type, htype, hback⟩ := hdecode hencode rfl
  obtain rfl : .timestamp = type := Option.some.inj (htimestamp.symm.trans htype)
  have hheld : v.throughWord .timestamp = .timestamp t.wholeMicros := rfl
  have hwhole : t.wholeMicros = ⟨t.date, ⟨86399, 999999000, by decide⟩⟩ := by decide
  rw [hheld, hwhole] at hback
  refine ⟨hencode, rfl, hback, hn, ?_⟩
  rw [ne_eq, hrange 4294967295 26 .oid (by decide) (by decide), not_not]
  decide

end ByValue

end InProcessSql
