import InProcessSql.Error

/-!
# Words that are values

The native executor hands values over in words of 64 bits. For types of fixed width the word
is the value itself: truth values and integers as they are, floating-point numbers by their words, dates
in days and times in microseconds. Dates and timestamps count from the start of the year 2000. For other
types the word is a reference that only the executor can follow.

`ByValue.decode?` reads such a word and `ByValue.encode?` writes one; they answer nothing for types that
are handed over by reference.
-/

namespace InProcessSql

open InProcessSql.Calendar InProcessSql.Floating

/-- A word by which the native executor hands over a value. -/
abbrev Word := UInt64

namespace ByValue

/-- The low bits of a word, as a signed number. -/
def signedBits (bits : Nat) (d : Word) : Int := Int.bmod d.toNat (Nat.pow 2 bits)

/-- The low bits of a word, as a natural number. -/
def lowBits (bits : Nat) (d : Word) : Nat := d.toNat % Nat.pow 2 bits

/-- The word of an integer. -/
def ofInt (n : Int) : Word := UInt64.ofInt n

/-- Answers the value, or that it is out of range. -/
def orOutOfRange (oid : Oid) : Option Value → Except Error Value
  | some v => .ok v
  | none => .error (.decode oid .outOfRange)

/-- Decodes a word of a scalar type that is handed over by value. -/
def decodeScalar? (oid : Oid) (d : Word) : ScalarType → Option (Except Error Value)
  | .boolean => some (.ok (.bool (lowBits 8 d != 0)))
  | .smallint => some (.ok (.int2 (Int16.ofInt (signedBits 16 d))))
  | .integer => some (.ok (.int4 (Int32.ofInt (signedBits 32 d))))
  | .bigint => some (.ok (.int8 (Int64.ofInt (signedBits 64 d))))
  | .oid | .xid | .cid => some (.ok (.int8 (Int64.ofInt (lowBits 32 d))))
  | .real => some (.ok (.float4 ⟨UInt32.ofNat (lowBits 32 d)⟩))
  | .double => some (.ok (.float8 ⟨d⟩))
  | .date => some (orOutOfRange oid ((Date.ofDayNumber? (signedBits 32 d + epochDay)).map .date))
  | .time => some (orOutOfRange oid ((TimeOfDay.ofMicros? (signedBits 64 d)).map .time))
  | .timestamp => some (orOutOfRange oid ((DateTime.ofMicros? (signedBits 64 d)).map .timestamp))
  | .timestamptz => some (orOutOfRange oid ((DateTime.ofMicros? (signedBits 64 d)).map .timestamptz))
  | _ => none

/-- Decodes a word of a type that is handed over by value. -/
def decode? (d : Word) (oid : Oid) : Option (Except Error Value) :=
  (scalarOfOid? oid).bind (decodeScalar? oid d)

/-- Encodes a value as a word of a scalar type. Integers and floating-point numbers may be narrower than
the type. -/
def encodeScalar? (oid : Oid) : ScalarType → Value → Option (Except Error Word)
  | .boolean, .bool b => some (.ok (if b then 1 else 0))
  | .smallint, .int2 n => some (.ok (ofInt n.toInt))
  | .integer, .int2 n => some (.ok (ofInt n.toInt))
  | .integer, .int4 n => some (.ok (ofInt n.toInt))
  | .bigint, .int2 n => some (.ok (ofInt n.toInt))
  | .bigint, .int4 n => some (.ok (ofInt n.toInt))
  | .bigint, .int8 n => some (.ok (ofInt n.toInt))
  | .oid, .int8 n => some (unsigned n)
  | .xid, .int8 n => some (unsigned n)
  | .cid, .int8 n => some (unsigned n)
  | .real, .float4 x => some (.ok x.word.toUInt64)
  | .double, .float4 x => some (.ok x.widen.word)
  | .double, .float8 x => some (.ok x.word)
  | .date, .date t => some (.ok (ofInt (t.dayNumber - epochDay)))
  | .time, .time t => some (.ok (ofInt t.micros))
  | .timestamp, .timestamp t => some (.ok (ofInt t.micros))
  | .timestamptz, .timestamptz t => some (.ok (ofInt t.micros))
  | _, _ => none
where
  /-- An integer as a natural number of 32 bits. -/
  unsigned (n : Int64) : Except Error Word :=
    if 0 ≤ n.toInt ∧ n.toInt < Nat.pow 2 32 then .ok (ofInt n.toInt) else .error (.decode oid .outOfRange)

/-- Encodes a value as a word of a type, if that type takes such values by value. -/
def encode? (v : Value) (oid : Oid) : Option (Except Error Word) :=
  (scalarOfOid? oid).bind fun type => encodeScalar? oid type v

end ByValue

end InProcessSql
