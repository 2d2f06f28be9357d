import InProcessSql.Value.Showing

/-!
# Typed reads

A `Target` is a type that a value can be read as: a scalar, a value itself, and over these any nesting of
options and lists. `Target.Carrier` is the Lean type that it stands for, `Target.convert` converts a value
that is not null, and `Target.null?` says how the target represents null, if it does.

Integers are widened and narrowed but never wrapped. A list is converted element by element, and the first
element that fails decides.
-/

namespace InProcessSql

open InProcessSql.Calendar InProcessSql.Floating InProcessSql.Number

/-- A type that a value can be read as. -/
inductive Target where
  | bool
  | int16
  | int32
  | int64
  | float32
  | float64
  | string
  | bytes
  | date
  | time
  | timestamp
  | timestamptz
  | value
  | option (inner : Target)
  | list (element : Target)
  deriving DecidableEq, Repr, Inhabited

/-- The type that a target stands for. -/
@[reducible] def Target.Carrier : Target → Type
  | bool => Bool
  | int16 => Int16
  | int32 => Int32
  | int64 => Int64
  | float32 => Binary32
  | float64 => Binary64
  | string => String
  | bytes => List UInt8
  | date => Date
  | time => TimeOfDay
  | timestamp => DateTime
  | timestamptz => DateTime
  | value => Value
  | option inner => Option inner.Carrier
  | list element => List element.Carrier

/-- Why a value cannot be read as a target. -/
inductive ValueError where
  | null
  | nullElement
  | unexpected (value : Value)
  | outOfRange (n : Int)
  | notRepresentable (text : String)
  deriving Repr, Inhabited

def ValueError.message : ValueError → String
  | null => "value is NULL"
  | nullElement => "array contains NULL"
  | unexpected v => "unexpected value " ++ v.inspect
  | outOfRange n => String.ofList (ofInt n) ++ " is out of range"
  | notRepresentable s => "numeric " ++ s ++ " is not representable"

namespace Value

/-- The integer of a value of an integer kind. -/
def integer? : Value → Option Int
  | int2 n => some n.toInt
  | int4 n => some n.toInt
  | int8 n => some n.toInt
  | _ => none

/-- The integer of a value, if it lies in the range. -/
def toInteger (range : Range) (v : Value) : Except ValueError Int :=
  match v.integer? with
  | none => .error (.unexpected v)
  | some n => if range.lo ≤ n ∧ n ≤ range.hi then .ok n else .error (.outOfRange n)

/-- The value as a number of 32 bits; only numbers that fit exactly are taken. -/
def toBinary32 : Value → Except ValueError Binary32
  | float4 x => .ok x
  | int2 n => .ok (Binary32.ofInt n.toInt)
  | v => .error (.unexpected v)

/-- The value as a number of 64 bits. -/
def toBinary64 : Value → Except ValueError Binary64
  | float4 x => .ok x.widen
  | float8 x => .ok x
  | int2 n => .ok (Binary64.ofInt n.toInt)
  | int4 n => .ok (Binary64.ofInt n.toInt)
  | numeric s =>
    match Binary64.read s.toList with
    | .ok x => .ok x
    | .error _ => .error (.notRepresentable s)
  | v => .error (.unexpected v)

end Value

namespace Target

/-- How a target represents null, if it does. -/
def null? : (t : Target) → Option t.Carrier
  | value => some Value.null
  | option _ => some none
  | bool | int16 | int32 | int64 | float32 | float64 | string | bytes | date | time | timestamp
  | timestamptz | list _ => none

/-- Converts an element of an array, which may be null. -/
def convertElement {α : Type} (null? : Option α) (convert : Value → Except ValueError α) :
    Value → Except ValueError α
  | .null =>
    match null? with
    | some a => .ok a
    | none => .error .nullElement
  | v => convert v

def convert : (t : Target) → Value → Except ValueError t.Carrier
  | bool, v =>
    match v with
    | .bool b => .ok b
    | v => .error (.unexpected v)
  | int16, v => (v.toInteger (Range.signed 16)).map Int16.ofInt
  | int32, v => (v.toInteger (Range.signed 32)).map Int32.ofInt
  | int64, v => (v.toInteger (Range.signed 64)).map Int64.ofInt
  | float32, v => v.toBinary32
  | float64, v => v.toBinary64
  | string, v =>
    match v with
    | .text s => .ok s
    | .numeric s => .ok s
    | v => .error (.unexpected v)
  | bytes, v =>
    match v with
    | .bytea bs => .ok bs
    | v => .error (.unexpected v)
  | date, v =>
    match v with
    | .date d => .ok d
    | v => .error (.unexpected v)
  | time, v =>
    match v with
    | .time t => .ok t
    | v => .error (.unexpected v)
  | timestamp, v =>
    match v with
    | .timestamp t => .ok t
    | v => .error (.unexpected v)
  | timestamptz, v =>
    match v with
    | .timestamptz t => .ok t
    | v => .error (.unexpected v)
  | value, v => .ok v
  | option inner, v =>
    match v with
    | .null => .ok none
    | v => (convert inner v).map some
  | list element, v =>
    match v with
    | .array items => items.mapM (convertElement element.null? (convert element))
    | v => .error (.unexpected v)

/-- Reads a value, which may be null, as a target. -/
def read (t : Target) : Value → Except ValueError t.Carrier
  | .null =>
    match t.null? with
    | some a => .ok a
    | none => .error .null
  | v => t.convert v

end Target

/-! ## The names of targets in messages -/

/-- What the types of the host application are called in messages. -/
structure TargetNames where
  plain : Target → String
  option : String → String
  list : String → String

def Target.name (names : TargetNames) : Target → String
  | option inner => names.option (inner.name names)
  | list element => names.list (element.name names)
  | t => names.plain t

end InProcessSql
