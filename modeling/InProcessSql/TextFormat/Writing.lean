import InProcessSql.Calendar.Text
import InProcessSql.Floating.Writing
import InProcessSql.Text.Basic
import InProcessSql.Text.Quoted
import InProcessSql.Value.Basic

/-!
# Values in the text format of the executor

The executor accepts every value as a text. Bytes are written in hexadecimal, floating-point numbers in
full width, timestamps with time zone with the offset of universal time, and arrays as their elements
between braces. An element is quoted if it would not be read back as it stands.
-/

namespace InProcessSql.TextFormat

open InProcessSql.Calendar InProcessSql.Floating InProcessSql.Number InProcessSql.Text

def writeFloat (x : Binary64) : List Char :=
  match x.number with
  | .nan => "NaN".toList
  | .infinity negative => signed negative "Infinity".toList
  | n => plain double n

def writeBytes (bytes : List UInt8) : List Char := '\\' :: 'x' :: bytes.flatMap hexByte

/-- Whether a character cannot stand in an element without quotes. -/
def needsQuotes (c : Char) : Bool :=
  c == '\x7b' || c == '\x7d' || c == ',' || c == '\x22' || c == '\\' || isBlank c

/-- Whether an element would not be read back without quotes. -/
def isQuotedElement (cs : List Char) : Bool :=
  cs.isEmpty || eqIgnoreCase cs "NULL".toList || cs.any needsQuotes

/-- A character inside the quotes of an element. -/
def escapeElementChar (c : Char) : List Char := if c == '\x22' || c == '\\' then ['\\', c] else [c]

/-- An element of an array, which is given as its own text. -/
def writeElement (cs : List Char) : List Char :=
  if isQuotedElement cs then '\x22' :: cs.flatMap escapeElementChar ++ ['\x22'] else cs

/-- The elements with a comma between each two. -/
def joinElements : List (List Char) → List Char
  | [] => []
  | [e] => e
  | e :: es => e ++ ',' :: joinElements es

mutual

/-- The characters of a value. -/
def writeChars : Value → List Char
  | .null => "NULL".toList
  | .bool b => [if b then 't' else 'f']
  | .int2 n => ofInt n.toInt
  | .int4 n => ofInt n.toInt
  | .int8 n => ofInt n.toInt
  | .float4 x => writeFloat x.widen
  | .float8 x => writeFloat x
  | .numeric s => s.toList
  | .text s => s.toList
  | .bytea bytes => writeBytes bytes
  | .date d => d.write
  | .time t => t.write
  | .timestamp t => t.write ' '
  | .timestamptz t => t.write ' ' ++ "+00".toList
  | .array items => '\x7b' :: joinElements (writeElements items) ++ ['\x7d']

/-- The elements of an array, as they stand between its braces. -/
def writeElements : List Value → List (List Char)
  | [] => []
  | .null :: vs => "NULL".toList :: writeElements vs
  | v :: vs => writeElement (writeChars v) :: writeElements vs

end

def write (v : Value) : String := String.ofList (writeChars v)

end InProcessSql.TextFormat
