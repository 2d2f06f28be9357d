import InProcessSql.SqlType.Tag
import InProcessSql.TextFormat.Reading
import InProcessSql.Value.Conversion

/-!
# Errors

What can go wrong with a command. All errors but those of the executor are found out locally; an executor
error carries the code and the words of the executor. `Error.message` is the wording of an error, given
what the host application calls its types.
-/

namespace InProcessSql

open InProcessSql.Number InProcessSql.Text

/-- Why the datum of a value cannot be decoded. -/
inductive DecodeError where
  | text (cause : TextFormat.ReadError)
  /-- The value lies outside the calendar or the day, or does not fit its type. -/
  | outOfRange
  | noText
  | unknownDatum (datum : Nat)
  deriving DecidableEq, Repr, Inhabited

def DecodeError.message : DecodeError → String
  | text cause => cause.message
  | outOfRange => "value out of range"
  | noText => "no output function"
  | unknownDatum datum => "unknown datum " ++ String.ofList (digits datum)

/-- Why a connection string is malformed. -/
inductive OptionsError where
  | missingValue (segment : String)
  | invalidBoolean (value : String)
  /-- A count is no number from zero on. -/
  | invalidCount (value : String)
  deriving DecidableEq, Repr, Inhabited

def OptionsError.message : OptionsError → String
  | missingValue segment => "Expected Key=Value, got \x27" ++ segment ++ "\x27"
  | invalidBoolean value => "Invalid boolean: " ++ value
  | invalidCount value => "Invalid Command Count: " ++ value

/-- What can go wrong with a command. -/
inductive Error where
  | emptyCommand
  | mixedParameterStyle
  | unsupportedType (type : SqlType)
  | unsupportedTag (tag : Int32)
  | columnNotFound (name : String)
  | columnOutOfBounds (index count : Nat)
  | invalidCast (column : String) (target : Target) (cause : ValueError)
  | noCurrentRow
  | readerClosed
  | executor (code : Int32) (message : String)
  /-- The datum of a value of that type cannot be decoded. -/
  | decode (oid : Oid) (cause : DecodeError)
  | invalidConnectionString (cause : OptionsError)
  /-- A text for the executor holds a zero byte, at that place. -/
  | interiorNul (position : Nat)
  deriving Repr, Inhabited

namespace Error

/-- Whether the executor refused, as opposed to an error found out locally. -/
def isExecutor : Error → Bool
  | executor _ _ => true
  | _ => false

/-- The error of an executor that does not accept statements. -/
def notReady : Error := executor (-1) "executor is not ready"

/-- A 32-bit word in hexadecimal. -/
def hexWord (n : Int32) : String := "0x" ++ String.ofList (hexDigits n.toUInt32.toNat)

def message (names : TargetNames) : Error → String
  | emptyCommand => "Command text must not be empty"
  | mixedParameterStyle => "Command parameters must be either all named or all positional"
  | unsupportedType type => "Unsupported type: " ++ type.sqlName
  | unsupportedTag tag => "Unsupported legacy type tag: " ++ hexWord tag
  | columnNotFound name => "Column not found: " ++ name
  | columnOutOfBounds index count =>
    "Column index " ++ String.ofList (digits index) ++ " out of bounds (columns: "
      ++ String.ofList (digits count) ++ ")"
  | invalidCast column target cause =>
    "Cannot read column " ++ column ++ " as " ++ target.name names ++ ": " ++ cause.message
  | noCurrentRow => "No current row; call read() first"
  | readerClosed => "Reader is closed"
  | executor code message => "Executor error " ++ String.ofList (ofInt code.toInt) ++ ": " ++ message
  | decode oid cause =>
    "Cannot decode value of type " ++ String.ofList (digits oid.toNat) ++ ": " ++ cause.message
  | invalidConnectionString cause => "Invalid connection string: " ++ cause.message
  | interiorNul position =>
    "Interior NUL byte in native string: nul byte found in provided data at position: "
      ++ String.ofList (digits position)

end Error

/-- The type of a tag. -/
def SqlType.ofTag (tag : Int32) : Except Error SqlType :=
  match SqlType.ofTag? tag with
  | some type => .ok type
  | none => .error (.unsupportedTag tag)

/-- The OID of a type. -/
def SqlType.oid (type : SqlType) : Except Error Oid :=
  match type.oid? with
  | some oid => .ok oid
  | none => .error (.unsupportedType type)

/-- The OID of the type of a tag. -/
def SqlType.oidOfTag (tag : Int32) : Except Error Oid := (SqlType.ofTag tag).bind SqlType.oid

/-- Reads the text of a value of a native type. -/
def TextFormat.decode (oid : Oid) (text : String) : Except Error Value :=
  (TextFormat.read oid text).mapError fun cause => .decode oid (.text cause)

end InProcessSql
