import InProcessSql.Calendar.DateTime
import InProcessSql.Floating.Literal
import InProcessSql.SqlType.Basic

/-!
# Values

A value is what a parameter or a column of a row holds. Numerics are kept as their text, which loses no
precision; every other textual type is a text. Timestamps with time zone are kept in universal time.

`Value.type` is the type that a value has when none is given with it.
-/

namespace InProcessSql

open InProcessSql.Calendar InProcessSql.Floating InProcessSql.Number

/-- A value of a parameter or column. -/
inductive Value where
  | null
  | bool (b : Bool)
  | int2 (n : Int16)
  | int4 (n : Int32)
  | int8 (n : Int64)
  | float4 (x : Binary32)
  | float8 (x : Binary64)
  | numeric (text : String)
  | text (text : String)
  | bytea (bytes : List UInt8)
  | date (d : Date)
  | time (t : TimeOfDay)
  | timestamp (t : DateTime)
  | timestamptz (t : DateTime)
  | array (items : List Value)
  deriving Repr, Inhabited

namespace Value

def isNull : Value → Bool
  | null => true
  | _ => false

@[simp] theorem isNull_iff {v : Value} : v.isNull = true ↔ v = null := by
  cases v <;> simp [isNull]

/-- The text of a value that is kept as text. -/
def asText? : Value → Option String
  | text s => some s
  | numeric s => some s
  | _ => none

/-- The integer that a value holds. -/
def toInt? : Value → Option Int
  | int2 n => some n.toInt
  | int4 n => some n.toInt
  | int8 n => some n.toInt
  | numeric s => (readInteger (Range.signed 64) s.toList).toOption
  | _ => none

/-- The number that a value holds, as a floating-point number. -/
def toFloat? : Value → Option Binary64
  | float4 x => some x.widen
  | float8 x => some x
  | numeric s => (Binary64.read s.toList).toOption
  | v => v.toInt?.map Binary64.ofInt

/-- The scalar type of a value that is no array. -/
def scalarType? : Value → Option ScalarType
  | null => some .unknown
  | bool _ => some .boolean
  | int2 _ => some .smallint
  | int4 _ => some .integer
  | int8 _ => some .bigint
  | float4 _ => some .real
  | float8 _ => some .double
  | numeric _ => some .numeric
  | text _ => some .text
  | bytea _ => some .bytea
  | date _ => some .date
  | time _ => some .time
  | timestamp _ => some .timestamp
  | timestamptz _ => some .timestamptz
  | array _ => none

/-- The type of a value. Null has no type of its own, and an array has the type of the first element that
is not null; an array without such an element, or whose first such element is an array, counts as texts. -/
def type : Value → SqlType
  | array items => .arrayOf (((items.find? fun v => !v.isNull).bind scalarType?).getD .text)
  | v => .scalar (v.scalarType?.getD .unknown)

end Value

end InProcessSql
