import InProcessSql.Calendar.Text
import InProcessSql.Floating.Literal
import InProcessSql.SqlType.Catalog
import InProcessSql.Text.Basic
import InProcessSql.Text.Quoted
import InProcessSql.Value.Basic

/-!
# Values from the text format of the executor

`readScalar` reads the text of a value of a scalar type, and `readArray` the text of an array: elements
between braces, with commas between them. An element in double quotes ends at the next double quote, and a
backslash in it makes the next character stand for itself. Any other element runs to the next comma; it is
null if it spells `NULL` in any letter case, and may hold no opening brace, because arrays have one
dimension.

`read` reads the text of a value of a native type. Types that are neither known scalars nor arrays of them
are kept as text.
-/

namespace InProcessSql.TextFormat

open InProcessSql.Calendar InProcessSql.Floating InProcessSql.Number InProcessSql.Text

/-! ## Failures -/

/-- Why a text holds no bytes. -/
inductive BytesError where
  | notHex
  | oddDigits
  /-- The two bytes of a digit pair end inside a character, which starts at the given one of them. -/
  | splitCharacter (index : Nat)
  | invalidDigit
  deriving DecidableEq, Repr, Inhabited

def BytesError.message : BytesError → String
  | notHex => "only hex bytea output is supported"
  | oddDigits => "odd number of hex digits"
  | splitCharacter index =>
    "incomplete utf-8 byte sequence from index " ++ String.ofList (digits index)
  | invalidDigit => IntegerError.invalidDigit.message

/-- Why a text is no value of its type. -/
inductive ReadError where
  | boolean (text : String)
  | integer (cause : IntegerError) (text : String)
  | float (cause : FloatError) (text : String)
  | bytes (cause : BytesError) (text : String)
  | calendar (cause : CalendarError) (text : String)
  | malformedArray (text : String)
  | unterminatedElement
  | nestedArray
  /-- The quotes of an element are followed by something else than a comma. -/
  | afterElement (c : Char)
  deriving DecidableEq, Repr, Inhabited

/-- A cause followed by the text at fault. -/
def withText (cause text : String) : String := cause ++ ": " ++ quoted text

def ReadError.message : ReadError → String
  | boolean text => withText "invalid boolean" text
  | integer cause text => withText cause.message text
  | float cause text => withText cause.message text
  | bytes cause text => withText cause.message text
  | calendar cause text => withText cause.message text
  | malformedArray text => withText "malformed array literal" text
  | unterminatedElement => "unterminated quoted array element"
  | nestedArray => "multidimensional arrays are not supported"
  | afterElement c => "unexpected " ++ quotedChar c ++ " after array element"

/-! ## Bytes -/

/-- The value of a hexadecimal digit. -/
def hexValue? (c : Char) : Option Nat :=
  if c.isDigit then some (c.toNat - '0'.toNat)
  else if 'a' ≤ c ∧ c ≤ 'f' then some (c.toNat - 'a'.toNat + 10)
  else if 'A' ≤ c ∧ c ≤ 'F' then some (c.toNat - 'A'.toNat + 10)
  else none

/-- The byte of two hexadecimal digits; a plus sign may stand for the first of them. -/
def readHexPair (c d : Char) : Except BytesError UInt8 :=
  match (if c == '+' then some 0 else hexValue? c), hexValue? d with
  | some high, some low => .ok (UInt8.ofNat (16 * high + low))
  | _, _ => .error .invalidDigit

/-- Reads bytes from pairs of hexadecimal digits. Pairs are pairs of bytes of the text, so that a character
of two bytes is a pair and a longer one ends inside it. -/
def readHexPairs : List Char → Except BytesError (List UInt8)
  | [] => .ok []
  | [c] =>
    if c.utf8Size = 1 then .error .oddDigits
    else if c.utf8Size = 2 then .error .invalidDigit
    else .error (.splitCharacter 0)
  | c :: d :: cs =>
    -- Until here every pair was two characters of one byte, so that a pair starts with `c`.
    if c.utf8Size = 1 then
      if d.utf8Size = 1 then do
        let b ← readHexPair c d
        let bs ← readHexPairs cs
        return b :: bs
      else .error (.splitCharacter 1)
    else if c.utf8Size = 2 then .error .invalidDigit
    else .error (.splitCharacter 0)

def readBytes : List Char → Except BytesError (List UInt8)
  | '\\' :: 'x' :: cs => if byteCount cs % 2 = 0 then readHexPairs cs else .error .oddDigits
  | _ => .error .notHex

/-! ## Scalars -/

def readBool? (text : String) : Option Bool :=
  if text == "t" || text == "true" then some true
  else if text == "f" || text == "false" then some false
  else none

/-- Reads the text of a value of a scalar type. -/
def readScalar (type : ScalarType) (text : String) : Except ReadError Value :=
  let cs := text.toList
  let readInt (bits : Nat) : Except ReadError Int :=
    (readInteger (Range.signed bits) cs).mapError (.integer · text)
  match type with
  | .boolean =>
    match readBool? text with
    | some b => .ok (.bool b)
    | none => .error (.boolean text)
  | .smallint => (readInt 16).map fun n => .int2 (Int16.ofInt n)
  | .integer => (readInt 32).map fun n => .int4 (Int32.ofInt n)
  | .bigint | .oid | .xid | .cid => (readInt 64).map fun n => .int8 (Int64.ofInt n)
  | .real => ((Binary32.read cs).mapError (.float · text)).map .float4
  | .double => ((Binary64.read cs).mapError (.float · text)).map .float8
  | .numeric => .ok (.numeric text)
  | .bytea => ((readBytes cs).mapError (.bytes · text)).map .bytea
  | .date => ((Date.read cs).mapError (.calendar · text)).map .date
  | .time => ((TimeOfDay.read cs).mapError (.calendar · text)).map .time
  | .timestamp => ((DateTime.read cs).mapError (.calendar · text)).map .timestamp
  | .timestamptz => ((DateTime.readWithOffset cs).mapError (.calendar · text)).map .timestamptz
  | _ => .ok (.text text)

/-! ## Arrays -/

/-- An element of an array text. -/
structure Element where
  isQuoted : Bool
  text : List Char
  deriving DecidableEq, Repr, Inhabited

/-- Reads the rest of a quoted element, after its opening quote, and answers its text and what follows. A
backslash at the very end closes the element. -/
def splitQuoted : List Char → Except ReadError (List Char × List Char)
  | [] => .error .unterminatedElement
  | [c] =>
    if c == '\\' || c == '\x22' then .ok ([], []) else .error .unterminatedElement
  | c :: d :: cs =>
    if c == '\\' then (splitQuoted cs).map fun (text, rest) => (d :: text, rest)
    else if c == '\x22' then .ok ([], d :: cs)
    else (splitQuoted (d :: cs)).map fun (text, rest) => (c :: text, rest)

/-- Reads one element, and answers it and what follows. -/
def splitElement (cs : List Char) : Except ReadError (Element × List Char) :=
  if cs.head? == some '\x22' then
    (splitQuoted cs.tail).map fun (text, rest) => (⟨true, text⟩, rest)
  else
    let text := cs.takeWhile (· != ',')
    if text.contains '\x7b' then .error .nestedArray
    else .ok (⟨false, text⟩, cs.dropWhile (· != ','))

/-- A quoted element leaves no more than there was. -/
theorem splitQuoted_length_le {cs text rest : List Char} (h : splitQuoted cs = .ok (text, rest)) :
    rest.length ≤ cs.length := by
  fun_induction splitQuoted cs generalizing text rest with
  | case1 => simp at h
  | case2 c hc =>
    simp only [Except.ok.injEq, Prod.mk.injEq] at h
    simp [← h.2]
  | case3 => simp at h
  | case4 c d cs hc ih =>
    cases hs : splitQuoted cs with
    | error e => simp [hs, Except.map] at h
    | ok p =>
      simp only [hs, Except.map, Except.ok.injEq, Prod.mk.injEq] at h
      have := @ih p.1 p.2 hs
      simp only [List.length_cons, ← h.2]
      omega
  | case5 c d cs =>
    simp only [Except.ok.injEq, Prod.mk.injEq] at h
    simp [← h.2]
  | case6 c d cs h1 h2 ih =>
    cases hs : splitQuoted (d :: cs) with
    | error e => simp [hs, Except.map] at h
    | ok p =>
      simp only [hs, Except.map, Except.ok.injEq, Prod.mk.injEq] at h
      have := @ih p.1 p.2 hs
      simp only [List.length_cons, ← h.2] at *
      omega

/-- An element leaves no more than there was. -/
theorem splitElement_length_le {cs rest : List Char} {e : Element}
    (h : splitElement cs = .ok (e, rest)) : rest.length ≤ cs.length := by
  simp only [splitElement] at h
  split at h
  · cases hs : splitQuoted cs.tail with
    | error e => simp [hs, Except.map] at h
    | ok p =>
      simp only [hs, Except.map, Except.ok.injEq, Prod.mk.injEq] at h
      have := @splitQuoted_length_le _ p.1 p.2 hs
      simp only [List.length_tail] at this
      simp only [← h.2]
      omega
  · split at h
    · simp at h
    · simp only [Except.ok.injEq, Prod.mk.injEq] at h
      rw [← h.2]
      exact (List.dropWhile_suffix _).length_le

/-- The elements between the braces of an array text, up to the first place where it is malformed. -/
def splitElements (cs : List Char) : List Element × Option ReadError :=
  match _h : splitElement cs with
  | .error e => ([], some e)
  | .ok (e, []) => ([e], none)
  | .ok (e, c :: rest) =>
    if c == ',' then
      let (es, error) := splitElements rest
      (e :: es, error)
    else ([e], some (.afterElement c))
termination_by cs.length
decreasing_by
  have := splitElement_length_le (by assumption)
  simp only [List.length_cons] at this
  omega

/-- The value of an element. -/
def readElement (type : ScalarType) (e : Element) : Except ReadError Value :=
  if !e.isQuoted && eqIgnoreCase e.text "NULL".toList then .ok .null
  else readScalar type (String.ofList e.text)

/-- The values of the elements between the braces of an array text. -/
def readElements (type : ScalarType) (cs : List Char) : Except ReadError (List Value) := do
  let (es, error) := splitElements cs
  let vs ← es.mapM (readElement type)
  match error with
  | none => return vs
  | some e => throw e

/-- What stands between the braces of an array text. -/
def arrayBody? : List Char → Option (List Char)
  | [] => none
  | c :: cs => if c == '\x7b' && cs.getLast? == some '\x7d' then some cs.dropLast else none

/-- Reads the text of an array over a scalar type. -/
def readArray (type : ScalarType) (text : String) : Except ReadError Value :=
  match arrayBody? text.toList with
  | none => .error (.malformedArray text)
  | some [] => .ok (.array [])
  | some body => (readElements type body).map .array

/-! ## Native types -/

/-- Reads the text of a value of a native type. -/
def read (oid : Oid) (text : String) : Except ReadError Value :=
  match scalarOfOid? oid with
  | some type => readScalar type text
  | none =>
    match elementOfOid? oid with
    | some type => readArray type text
    | none => .ok (.text text)

end InProcessSql.TextFormat
