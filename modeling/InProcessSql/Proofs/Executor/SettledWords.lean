import Mathlib
import InProcessSql.Proofs.Calendar.Extent
import InProcessSql.Proofs.Executor.NativeValues

/-!
# Words that are read and written again

Every word of a type that is handed over by value is read, unless it tells a day, a time or a timestamp that
does not exist. What is read from it has a word of its own, the settled one, which is the part of the word that
counts, extended by its sign or by zeros, and which is read as the same value.

A time has a word in any case, but that is read again only if it tells less than a day: the leap second behind
the last second of the day is written as a word that no time is read from.
-/

namespace InProcessSql

open InProcessSql.Calendar

namespace ByValue

/-! ## Bits of a word -/

/-- The low bits of a word, with the highest of them repeated above. -/
def signExtended (bits : Nat) (w : Word) : Word := ⟨(w.toBitVec.setWidth bits).signExtend 64⟩

/-- The low bits of a word, with zeros above. -/
def zeroExtended (bits : Nat) (w : Word) : Word := ⟨(w.toBitVec.setWidth bits).setWidth 64⟩

/-- The low bits of a word with a sign are those of the shorter word. -/
theorem signedBits_eq_toInt (bits : Nat) (w : Word) :
    signedBits bits w = (w.toBitVec.setWidth bits).toInt := by
  rw [BitVec.toInt_eq_toNat_bmod, BitVec.toNat_setWidth, Int.natCast_emod, Int.emod_bmod]
  rfl

/-- The low bits of a word without a sign are those of the shorter word. -/
theorem lowBits_eq_toNat (bits : Nat) (w : Word) : lowBits bits w = (w.toBitVec.setWidth bits).toNat := by
  rw [BitVec.toNat_setWidth]
  rfl

theorem lowBits_lt (bits : Nat) (w : Word) : lowBits bits w < 2 ^ bits :=
  Nat.mod_lt _ (Nat.pow_pos (by decide))

/-- The low bits with a sign are settled within their width. -/
theorem bmod_signedBits (bits : Nat) (w : Word) : (signedBits bits w).bmod (2 ^ bits) = signedBits bits w :=
  Int.bmod_bmod

theorem toBitVec_ofInt (n : Int) : (ofInt n).toBitVec = BitVec.ofInt 64 n := by
  apply BitVec.eq_of_toNat_eq
  rw [BitVec.toNat_ofInt]
  have hword := toNat_ofInt n
  show (ofInt n).toNat = _
  omega

/-- The word of what the low bits are as a signed number. -/
theorem ofInt_signedBits (bits : Nat) (w : Word) : ofInt (signedBits bits w) = signExtended bits w := by
  rw [← UInt64.toBitVec_inj, toBitVec_ofInt, signedBits_eq_toInt]
  rfl

/-- The word of what the low bits are as a natural number. -/
theorem ofInt_lowBits (bits : Nat) (w : Word) : ofInt (lowBits bits w) = zeroExtended bits w := by
  rw [← UInt64.toBitVec_inj, toBitVec_ofInt, lowBits_eq_toNat, BitVec.ofInt_natCast, BitVec.ofNat_toNat]
  rfl

/-- A whole word is its own extension. -/
theorem signExtended_word (w : Word) : signExtended 64 w = w := by
  rw [signExtended, BitVec.setWidth_eq, BitVec.signExtend_eq]

theorem toNat_zeroExtended {bits : Nat} (h : bits ≤ 64) (w : Word) :
    (zeroExtended bits w).toNat = lowBits bits w := by
  show ((w.toBitVec.setWidth bits).setWidth 64).toNat = lowBits bits w
  rw [BitVec.toNat_setWidth_of_le h, lowBits_eq_toNat]

/-- Extending the low bits by their sign leaves them as they are. -/
theorem signedBits_signExtended {bits : Nat} (h : bits ≤ 64) (w : Word) :
    signedBits bits (signExtended bits w) = signedBits bits w := by
  have hback : ((w.toBitVec.setWidth bits).signExtend 64).setWidth bits = w.toBitVec.setWidth bits := by
    grind
  rw [signedBits_eq_toInt, signedBits_eq_toInt, signExtended, hback]

/-- Extending the low bits by zeros leaves them as they are. -/
theorem lowBits_zeroExtended {bits : Nat} (h : bits ≤ 64) (w : Word) :
    lowBits bits (zeroExtended bits w) = lowBits bits w := by
  rw [lowBits, toNat_zeroExtended h]
  exact Nat.mod_eq_of_lt (lowBits_lt bits w)

/-! ## Settled words -/

/-- The word that is written for what a word of a type is read as. -/
def settled : ScalarType → Word → Word
  | .boolean, w => if lowBits 8 w = 0 then 0 else 1
  | .smallint, w => signExtended 16 w
  | .integer, w | .date, w => signExtended 32 w
  | .oid, w | .xid, w | .cid, w | .real, w => zeroExtended 32 w
  | _, w => w

/-- Whether a word tells a day of the calendar, a time of the day or a timestamp of the calendar. Words of other
types are always in range. -/
def IsInRange : ScalarType → Word → Prop
  | .date, w =>
    Date.first.dayNumber ≤ signedBits 32 w + epochDay ∧ signedBits 32 w + epochDay ≤ Date.last.dayNumber
  | .time, w => 0 ≤ signedBits 64 w ∧ signedBits 64 w < microsPerDay
  | .timestamp, w | .timestamptz, w =>
    DateTime.first.micros ≤ signedBits 64 w ∧ signedBits 64 w ≤ DateTime.last.micros
  | _, _ => True

/-- Whether a word is the least or the greatest one of its type, which stand for the two ends of time. -/
def IsInfinite : ScalarType → Word → Prop
  | .date, w => signedBits 32 w = -2147483648 ∨ signedBits 32 w = 2147483647
  | .timestamp, w | .timestamptz, w =>
    signedBits 64 w = -9223372036854775808 ∨ signedBits 64 w = 9223372036854775807
  | _, _ => False

/-- An infinite date or timestamp is out of range. -/
theorem not_isInRange_of_isInfinite {type : ScalarType} {w : Word} (h : IsInfinite type w) :
    ¬IsInRange type w := by
  cases type with
  | date =>
    simp only [IsInfinite, IsInRange, Date.dayNumber_first, Date.dayNumber_last, epochDay] at *
    omega
  | timestamp | timestamptz =>
    simp only [IsInfinite, IsInRange, DateTime.micros_first, DateTime.micros_last] at *
    omega
  | _ => exact h.elim

/-- Only the part of a word that its settled word keeps is read. -/
theorem decodeScalar?_settled (oid : Oid) (type : ScalarType) (w : Word) :
    decodeScalar? oid (settled type w) type = decodeScalar? oid w type := by
  cases type with
  | boolean =>
    rw [settled, decodeScalar?, decodeScalar?]
    split
    · next h =>
      rw [h]
      rfl
    · next h =>
      rw [bne_iff_ne.2 h]
      rfl
  | smallint | integer | date =>
    rw [settled, decodeScalar?, decodeScalar?, signedBits_signExtended (by decide)]
  | oid | xid | cid | real => rw [settled, decodeScalar?, decodeScalar?, lowBits_zeroExtended (by decide)]
  | _ => rfl

/-- The low bits of a word are the word of an identifier. -/
theorem unsigned_lowBits (oid : Oid) (w : Word) :
    encodeScalar?.unsigned oid (Int64.ofInt (lowBits 32 w)) = .ok (zeroExtended 32 w) := by
  have hlt := lowBits_lt 32 w
  have hint : (Int64.ofInt (lowBits 32 w)).toInt = lowBits 32 w :=
    Int64.toInt_ofInt_of_le (by omega) (by omega)
  have hrange : (0 : Int) ≤ lowBits 32 w ∧ (lowBits 32 w : Int) < Nat.pow 2 32 :=
    ⟨Int.natCast_nonneg _, Int.ofNat_lt.2 hlt⟩
  rw [encodeScalar?.unsigned, hint, if_pos hrange, ofInt_lowBits]

/-- A word in range is read as a value, whose word is the settled one. -/
theorem exists_decodeScalar? {oid : Oid} {type : ScalarType} (htype : type ∈ types) {w : Word}
    (h : IsInRange type w) :
    ∃ v, decodeScalar? oid w type = some (.ok v) ∧
      encodeScalar? oid type v = some (.ok (settled type w)) := by
  cases type with
  | boolean =>
    refine ⟨_, rfl, ?_⟩
    rw [encodeScalar?, settled]
    -- Any low byte but zero is read as true, whose word is one.
    by_cases hw : lowBits 8 w = 0
    · rw [hw]
      rfl
    · rw [bne_iff_ne.2 hw, if_neg hw]
      rfl
  | smallint =>
    refine ⟨_, rfl, ?_⟩
    have hbits : (Int16.ofInt (signedBits 16 w)).toInt = signedBits 16 w :=
      Int16.toInt_ofInt.trans (bmod_signedBits 16 w)
    rw [encodeScalar?, hbits, ofInt_signedBits]
    rfl
  | integer =>
    refine ⟨_, rfl, ?_⟩
    have hbits : (Int32.ofInt (signedBits 32 w)).toInt = signedBits 32 w :=
      Int32.toInt_ofInt.trans (bmod_signedBits 32 w)
    rw [encodeScalar?, hbits, ofInt_signedBits]
    rfl
  | bigint =>
    refine ⟨_, rfl, ?_⟩
    have hbits : (Int64.ofInt (signedBits 64 w)).toInt = signedBits 64 w :=
      Int64.toInt_ofInt.trans (bmod_signedBits 64 w)
    rw [encodeScalar?, hbits, ofInt_signedBits, signExtended_word]
    rfl
  | oid | xid | cid =>
    refine ⟨_, rfl, ?_⟩
    rw [encodeScalar?, unsigned_lowBits]
    rfl
  | real =>
    refine ⟨_, rfl, ?_⟩
    have hword : (UInt32.ofNat (lowBits 32 w)).toUInt64 = zeroExtended 32 w := by
      rw [← UInt64.toNat_inj, toNat_zeroExtended (by decide), UInt32.toNat_toUInt64]
      exact UInt32.toNat_ofNat_of_lt (lowBits_lt 32 w)
    rw [encodeScalar?, hword]
    rfl
  | double => exact ⟨_, rfl, rfl⟩
  | date =>
    obtain ⟨d, hd⟩ := Date.exists_ofDayNumber?_iff.2 h
    refine ⟨.date d, ?_, ?_⟩
    · rw [decodeScalar?, hd]
      rfl
    · rw [encodeScalar?, Date.dayNumber_of_ofDayNumber hd, add_sub_cancel_right, ofInt_signedBits]
      rfl
  | time =>
    obtain ⟨t, ht⟩ := TimeOfDay.exists_ofMicros?_iff.2 h
    refine ⟨.time t, ?_, ?_⟩
    · rw [decodeScalar?, ht]
      rfl
    · rw [encodeScalar?, (TimeOfDay.eq_of_ofMicros? ht).1, ofInt_signedBits, signExtended_word]
      rfl
  | timestamp | timestamptz =>
    obtain ⟨t, ht⟩ := DateTime.exists_ofMicros?_iff.2 h
    refine ⟨_, by rw [decodeScalar?, ht]; rfl, ?_⟩
    rw [encodeScalar?, (DateTime.eq_of_ofMicros? ht).1, ofInt_signedBits, signExtended_word]
    rfl
  | _ => exact absurd htype (by decide)

/-- A word out of range is not read. -/
theorem decodeScalar?_of_not_isInRange {oid : Oid} {type : ScalarType} {w : Word} (h : ¬IsInRange type w) :
    decodeScalar? oid w type = some (.error (.decode oid .outOfRange)) ∧
      type ∈ [.date, .time, .timestamp, .timestamptz] := by
  cases type with
  | date =>
    have hnone : Date.ofDayNumber? (signedBits 32 w + epochDay) = none :=
      Option.eq_none_iff_forall_ne_some.2 fun d hd => h (Date.exists_ofDayNumber?_iff.1 ⟨d, hd⟩)
    rw [decodeScalar?, hnone]
    exact ⟨rfl, by decide⟩
  | time =>
    have hnone : TimeOfDay.ofMicros? (signedBits 64 w) = none :=
      Option.eq_none_iff_forall_ne_some.2 fun t ht => h (TimeOfDay.exists_ofMicros?_iff.1 ⟨t, ht⟩)
    rw [decodeScalar?, hnone]
    exact ⟨rfl, by decide⟩
  | timestamp | timestamptz =>
    have hnone : DateTime.ofMicros? (signedBits 64 w) = none :=
      Option.eq_none_iff_forall_ne_some.2 fun t ht => h (DateTime.exists_ofMicros?_iff.1 ⟨t, ht⟩)
    rw [decodeScalar?, hnone]
    exact ⟨rfl, by decide⟩
  | _ => exact absurd trivial h

/-- A word of a type that is handed over by value is read exactly if it is in range, as a value whose word is
the settled one and is read as that value again. Only days, times and timestamps can be out of range, the two
ends of time always are, and counting in words finds the same days and timestamps. -/
theorem encode?_decode? {oid : Oid} {type : ScalarType} (hoid : scalarOfOid? oid = some type)
    (htype : type ∈ types) (w : Word) :
    (IsInRange type w →
        ∃ v, decode? w oid = some (.ok v) ∧ encode? v oid = some (.ok (settled type w)) ∧
          decode? (settled type w) oid = some (.ok v)) ∧
      (¬IsInRange type w →
        decode? w oid = some (.error (.decode oid .outOfRange)) ∧
          type ∈ [.date, .time, .timestamp, .timestamptz]) ∧
      (IsInfinite type w → ¬IsInRange type w) ∧
      (Date.ofDaysInWords (signedBits 32 w)).join = Date.ofDayNumber? (signedBits 32 w + epochDay) ∧
      (DateTime.ofMicrosInWords (signedBits 64 w)).join = DateTime.ofMicros? (signedBits 64 w) := by
  refine ⟨fun h => ?_, fun h => ?_, not_isInRange_of_isInfinite, Date.join_ofDaysInWords _,
    DateTime.join_ofMicrosInWords ?_⟩
  · obtain ⟨v, hread, hwritten⟩ := exists_decodeScalar? htype h
    refine ⟨v, ?_, ?_, ?_⟩
    · rw [decode?_of_scalarOfOid? hoid, hread]
    · rw [encode?_of_scalarOfOid? hoid, hwritten]
    · rw [decode?_of_scalarOfOid? hoid, decodeScalar?_settled, hread]
  · rw [decode?_of_scalarOfOid? hoid]
    exact decodeScalar?_of_not_isInRange h
  · rw [signedBits_eq_toInt]
    exact BitVec.le_toInt _

/-- Above the low bits of an integer anything may stand, and the end of time has no date. -/
theorem encode?_decode?_of_garbage :
    scalarOfOid? 21 = some .smallint ∧ IsInRange .smallint 0xABCD8000 ∧
      (∃ v, decode? 0xABCD8000 21 = some (.ok v) ∧ encode? v 21 = some (.ok 0xFFFFFFFFFFFF8000) ∧
        decode? 0xFFFFFFFFFFFF8000 21 = some (.ok v)) ∧
      scalarOfOid? 1082 = some .date ∧ IsInfinite .date 0xABCD7FFFFFFF ∧
      decode? 0xABCD7FFFFFFF 1082 = some (.error (.decode 1082 .outOfRange)) := by
  have hsmallint : scalarOfOid? 21 = some .smallint := by decide
  have hdate : scalarOfOid? 1082 = some .date := by decide
  have hend : IsInfinite .date 0xABCD7FFFFFFF := .inr (by decide)
  obtain ⟨hread, -⟩ := encode?_decode? hsmallint (by decide) 0xABCD8000
  obtain ⟨-, hrefused, hinfinite, -⟩ := encode?_decode? hdate (by decide) 0xABCD7FFFFFFF
  exact ⟨hsmallint, trivial, hread trivial, hdate, hend, (hrefused (hinfinite hend)).1⟩

/-! ## Words of times -/

/-- A time is written as the number of its microseconds. Its word tells less than a day, and is read as the time
of so many microseconds, exactly if it does not lie behind the last second of the day. -/
theorem decode?_encode?_time {oid : Oid} (hoid : scalarOfOid? oid = some .time) (t : TimeOfDay) :
    ∃ w, encode? (.time t) oid = some (.ok w) ∧ signedBits 64 w = t.micros ∧
      (0 ≤ signedBits 64 w ∧ signedBits 64 w < microsPerDay ↔ ¬t.IsBehindDay) ∧
      (¬t.IsBehindDay → ∃ u, decode? w oid = some (.ok (.time u)) ∧ u.micros = t.micros) ∧
      (t.IsBehindDay → decode? w oid = some (.error (.decode oid .outOfRange))) := by
  have hmicros := signedBits_time t
  have hrange : IsInRange .time (ofInt t.micros) ↔ ¬t.IsBehindDay := by
    rw [IsInRange, hmicros, ← TimeOfDay.micros_lt_microsPerDay_iff]
    exact and_iff_right (Int.natCast_nonneg _)
  refine ⟨ofInt t.micros, encode?_of_scalarOfOid? hoid _, hmicros, hrange, fun h => ?_, fun h => ?_⟩
  · obtain ⟨u, hu⟩ := TimeOfDay.exists_ofMicros?_iff.2 (hrange.2 h)
    refine ⟨u, ?_, ?_⟩
    · rw [decode?_of_scalarOfOid? hoid, decodeScalar?, hu]
      rfl
    · exact Int.natCast_inj.1 ((TimeOfDay.eq_of_ofMicros? hu).1.trans hmicros)
  · rw [decode?_of_scalarOfOid? hoid]
    exact (decodeScalar?_of_not_isInRange (hrange.not.2 (not_not_intro h))).1

/-- The leap second of noon is read as the first second after noon. -/
theorem decode?_encode?_time_noon :
    let t : TimeOfDay := ⟨43199, 1500000000, by decide⟩
    scalarOfOid? 1083 = some .time ∧ ¬t.IsBehindDay ∧
      ∃ w, encode? (.time t) 1083 = some (.ok w) ∧
        ∃ u, decode? w 1083 = some (.ok (.time u)) ∧ u.micros = 43200500000 := by
  intro t
  have hoid : scalarOfOid? 1083 = some .time := by decide
  have hday : ¬t.IsBehindDay := fun h => absurd h.1 (by decide)
  obtain ⟨w, hw, -, -, hread, -⟩ := decode?_encode?_time hoid t
  obtain ⟨u, hu, hmicros⟩ := hread hday
  exact ⟨hoid, hday, w, hw, u, hu, hmicros.trans (by decide)⟩

/-- The leap second behind the last second of the day is written as a word of a whole day, from which no time
is read. -/
theorem exists_time_not_read :
    let t : TimeOfDay := ⟨86399, 1000000000, by decide⟩
    encode? (.time t) 1083 = some (.ok 86400000000) ∧ ¬signedBits 64 86400000000 < microsPerDay ∧
      decode? 86400000000 1083 = some (.error (.decode 1083 .outOfRange)) := by
  intro t
  have hoid : scalarOfOid? 1083 = some .time := by decide
  have hbeyond : ¬signedBits 64 86400000000 < microsPerDay := by decide
  have hword : ofInt t.micros = 86400000000 := by decide
  refine ⟨?_, hbeyond, ?_⟩
  · rw [encode?_of_scalarOfOid? hoid, encodeScalar?, hword]
  · rw [decode?_of_scalarOfOid? hoid]
    have hrange : ¬IsInRange .time 86400000000 := fun h => hbeyond h.2
    exact (decodeScalar?_of_not_isInRange hrange).1

end ByValue

end InProcessSql
