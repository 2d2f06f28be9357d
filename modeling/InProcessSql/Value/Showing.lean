import InProcessSql.Calendar.Text
import InProcessSql.Floating.Writing
import InProcessSql.Text.Quoted
import InProcessSql.Value.Basic

/-!
# Shown values

`Value.display` shows a value to a reader, and `Value.inspect` shows in messages of which kind it is, too.
-/

namespace InProcessSql

open InProcessSql.Calendar InProcessSql.Floating InProcessSql.Number InProcessSql.Text

namespace Value

/-- The texts with a comma and a blank between each two. -/
def commaSeparated : List String → String
  | [] => ""
  | [s] => s
  | s :: rest => s ++ ", " ++ commaSeparated rest

def boolWord (b : Bool) : String := if b then "true" else "false"

mutual

/-- A value as it is shown to a reader. -/
def display : Value → String
  | null => "NULL"
  | bool b => boolWord b
  | int2 n => String.ofList (ofInt n.toInt)
  | int4 n => String.ofList (ofInt n.toInt)
  | int8 n => String.ofList (ofInt n.toInt)
  | float4 x => String.ofList (plain single x.number)
  | float8 x => String.ofList (plain double x.number)
  | numeric s => s
  | text s => s
  | bytea bytes => "<BYTEA: " ++ String.ofList (digits bytes.length) ++ " bytes>"
  | date d => String.ofList d.write
  | time t => String.ofList t.write
  | timestamp t => String.ofList (t.write ' ')
  | timestamptz t => String.ofList (t.write ' ') ++ "+00:00"
  | array items => "[" ++ commaSeparated (displayAll items) ++ "]"

def displayAll : List Value → List String
  | [] => []
  | v :: vs => display v :: displayAll vs

end

/-- The name of a kind of value with what it holds in parentheses. -/
def kindOf (kind content : String) : String := kind ++ "(" ++ content ++ ")"

mutual

/-- A value as it is shown in messages. -/
def inspect : Value → String
  | null => "Null"
  | bool b => kindOf "Bool" (boolWord b)
  | int2 n => kindOf "Int2" (String.ofList (ofInt n.toInt))
  | int4 n => kindOf "Int4" (String.ofList (ofInt n.toInt))
  | int8 n => kindOf "Int8" (String.ofList (ofInt n.toInt))
  | float4 x => kindOf "Float4" (String.ofList (marked single x.number))
  | float8 x => kindOf "Float8" (String.ofList (marked double x.number))
  | numeric s => kindOf "Numeric" (quoted s)
  | text s => kindOf "Text" (quoted s)
  | bytea bytes => kindOf "Bytea" (quotedBytes bytes)
  | date d => kindOf "Date" (String.ofList d.write)
  | time t => kindOf "Time" (String.ofList t.write)
  | timestamp t => kindOf "Timestamp" (String.ofList (t.write 'T'))
  | timestamptz t => kindOf "TimestampTz" (String.ofList (t.write 'T') ++ "Z")
  | array items => kindOf "Array" ("[" ++ commaSeparated (inspectAll items) ++ "]")

def inspectAll : List Value → List String
  | [] => []
  | v :: vs => inspect v :: inspectAll vs

end

end Value

end InProcessSql
