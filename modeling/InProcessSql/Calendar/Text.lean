import InProcessSql.Calendar.DateTime
import InProcessSql.Number.Decimal
import InProcessSql.Text.Basic

/-!
# Dates and times as texts

Dates are written as year, month and day, and times as hour, minute and second, each with leading zeros.
Years before 0 and after 9999 carry a sign. A fraction of a second is written with three, six or nine
digits, whichever suffice, and left out if there is none.

The readers take a text from left to right and report the first field that fails. A field first skips
blanks. A year takes up to four digits, or any number of them after a sign; the other fields take one or
two digits. A fraction of a second takes any number of digits, of which nine count. Whether day, month
and year make a date is asked only after the whole text has been read.
-/

namespace InProcessSql.Calendar

open InProcessSql.Number InProcessSql.Text

/-! ## Writing -/

/-- The year, with four digits or a sign and at least four. -/
def writeYear (year : Int) : List Char :=
  if 0 ≤ year ∧ year ≤ 9999 then digitsPadded 4 year.natAbs
  else (if year < 0 then '-' else '+') :: digitsPadded 4 year.natAbs

/-- The fraction of a second. -/
def writeFraction (nanos : Nat) : List Char :=
  if nanos = 0 then []
  else if nanos % 1000000 = 0 then '.' :: digitsPadded 3 (nanos / 1000000)
  else if nanos % 1000 = 0 then '.' :: digitsPadded 6 (nanos / 1000)
  else '.' :: digitsPadded 9 nanos

def Date.write (d : Date) : List Char :=
  writeYear d.year ++ '-' :: digitsPadded 2 d.month ++ '-' :: digitsPadded 2 d.day

def TimeOfDay.write (t : TimeOfDay) : List Char :=
  digitsPadded 2 t.hour ++ ':' :: digitsPadded 2 t.minute ++ ':' :: digitsPadded 2 t.second
    ++ writeFraction t.fraction

def DateTime.write (separator : Char) (t : DateTime) : List Char :=
  t.date.write ++ separator :: t.time.write

/-! ## Reading -/

/-- Why a text is no date or time. -/
inductive CalendarError where
  | outOfRange
  | impossible
  | invalid
  | tooShort
  | tooLong
  deriving DecidableEq, Repr, Inhabited

def CalendarError.message : CalendarError → String
  | .outOfRange => "input is out of range"
  | .impossible => "no possible date and time matching input"
  | .invalid => "input contains invalid characters"
  | .tooShort => "premature end of input"
  | .tooLong => "trailing input"

/-- A reader of a part of a text; its state is the text that is left. -/
abbrev Scan (α : Type) := StateT (List Char) (Except CalendarError) α

/-! ## Fields -/

/-- The number of bytes that a text takes. -/
def byteCount (cs : List Char) : Nat := cs.foldr (fun c n => c.utf8Size + n) 0

/-- The greatest number that a field can hold before it is checked. -/
def maxField : Nat := Nat.pow 2 63 - 1

/-- Reads digits onto the number `acc`, as many as there are, but at most `count`. -/
def digitsOnto (acc : Nat) : Nat → List Char → Except CalendarError (Nat × List Char)
  | 0, cs => .ok (acc, cs)
  | _ + 1, [] => .ok (acc, [])
  | count + 1, c :: cs =>
    if c.isDigit then
      let next := 10 * acc + digitValue c
      if maxField < next then .error .outOfRange else digitsOnto next count cs
    else .ok (acc, c :: cs)

/-- Reads a number of one to `count` digits. -/
def scanNumber (count : Nat) : Scan Nat
  | [] => .error .tooShort
  | c :: cs => if c.isDigit then digitsOnto 0 count (c :: cs) else .error .invalid

def scanChar (expected : Char) : Scan Unit
  | [] => .error .tooShort
  | c :: cs => if c == expected then .ok ((), cs) else .error .invalid

/-- Skips the characters of a class. -/
def skipWhile (p : Char → Bool) : Scan Unit := fun cs => .ok ((), cs.dropWhile p)

/-- The value, if it passes the check; else it is out of range. -/
def require {α : Type} (check : Bool) (value : α) : Except CalendarError α :=
  if check then .ok value else .error .outOfRange

/-- Reads a number of one or two digits that lies between `lo` and `hi`, after blanks. -/
def scanField (lo hi : Nat) : Scan Nat := do
  skipWhile isBlank
  let n ← scanNumber 2
  require (lo ≤ n && n ≤ hi) n

/-- The sign that a year starts with, if it has one. -/
def scanYearSign : Scan (Option Bool)
  | '-' :: cs => .ok (some true, cs)
  | '+' :: cs => .ok (some false, cs)
  | cs => .ok (none, cs)

/-- The year, if it fits 32 bits. -/
def checkYear (year : Int) : Except CalendarError Int :=
  require (-(Nat.pow 2 31 : Int) ≤ year && year < Nat.pow 2 31) year

/-- Reads a year, after blanks. -/
def scanYear : Scan Int := do
  skipWhile isBlank
  match ← scanYearSign with
  -- A sign takes the limit off the number of digits.
  | some negative =>
    let n ← scanNumber (← get).length
    checkYear (if negative then -(n : Int) else n)
  | none =>
    let n ← scanNumber 4
    checkYear n

/-- Reads a fraction of a second, in nanoseconds; there need not be one. -/
def scanFraction : Scan Nat
  | '.' :: cs =>
    match scanNumber 9 cs with
    | .error e => .error e
    | .ok (n, rest) => .ok (n * Nat.pow 10 (9 - (cs.length - rest.length)), rest.dropWhile Char.isDigit)
  | cs => .ok (0, cs)

/-- Whether a character may stand between the hours and minutes of an offset. -/
def isOffsetSeparator (c : Char) : Bool := c == ':' || isBlank c

def scanTwoDigits : Scan Nat := fun cs =>
  if byteCount cs < 2 then .error .tooShort else
    match cs with
    | c :: d :: cs =>
      if c.isDigit && d.isDigit then .ok (10 * digitValue c + digitValue d, cs) else .error .invalid
    | _ => .error .invalid

/-- Reads the minutes of an offset from universal time, which may be left out. -/
def scanOffsetMinutes : Scan Nat := do
  if (← get).isEmpty then return 0
  let n ← scanTwoDigits
  require (n < 60) n

/-- Reads an offset from universal time, in seconds east of it, after blanks. -/
def scanOffset : Scan Int := do
  skipWhile isBlank
  match ← get with
  | [] => throw .tooShort
  | c :: cs =>
    set cs
    if c == 'Z' || c == 'z' then return 0
    else if c == '+' || c == '-' || c == '\u2212' then
      let hours ← scanTwoDigits
      skipWhile isOffsetSeparator
      let minutes ← scanOffsetMinutes
      let seconds : Int := hours * 3600 + minutes * 60
      return if c == '+' then seconds else -seconds
    else throw .invalid

/-! ## Dates and times -/

/-- The fields of a date, before it is asked whether there is such a date. -/
structure DateFields where
  year : Int
  month : Nat
  day : Nat
  deriving DecidableEq, Repr

/-- The fields of a time, in which a leap second has the number 60. -/
structure TimeFields where
  hour : Nat
  minute : Nat
  second : Nat
  nanos : Nat
  deriving DecidableEq, Repr

def scanDate : Scan DateFields := do
  let year ← scanYear
  scanChar '-'
  let month ← scanField 1 12
  scanChar '-'
  let day ← scanField 1 31
  return ⟨year, month, day⟩

def scanTime : Scan TimeFields := do
  let hour ← scanField 0 23
  scanChar ':'
  let minute ← scanField 0 59
  scanChar ':'
  let second ← scanField 0 60
  let nanos ← scanFraction
  return ⟨hour, minute, second, nanos⟩

/-- What the reader makes of the whole of a text. -/
def readAll {α : Type} (reader : Scan α) (cs : List Char) : Except CalendarError α :=
  match reader cs with
  | .error e => .error e
  | .ok (a, []) => .ok a
  | .ok (_, _ :: _) => .error .tooLong

/-- The date with the given fields. -/
def DateFields.date (f : DateFields) : Except CalendarError Date :=
  match Date.of? f.year f.month f.day with
  | some d => .ok d
  | none => .error .outOfRange

/-- The time with the given fields. -/
def TimeFields.time (f : TimeFields) : Except CalendarError TimeOfDay :=
  match TimeOfDay.ofClock? f.hour f.minute f.second f.nanos with
  | some t => .ok t
  | none => .error .outOfRange

/-- The timestamp of a day and a time that are told `offset` seconds east of universal time. -/
def DateTime.atOffset (t : DateTime) (offset : Int) : Except CalendarError DateTime :=
  if offset.natAbs < 86400 then
    match t.minusSeconds? offset with
    | some t => .ok t
    | none => .error .impossible
  else .error .outOfRange

/-- Reads the fields of a date and, after blanks or none, of a time. -/
def scanDateTime : Scan (DateFields × TimeFields) := do
  let date ← scanDate
  skipWhile isBlank
  let time ← scanTime
  return (date, time)

/-- Reads the fields of a timestamp and its offset from universal time. -/
def scanDateTimeOffset : Scan ((DateFields × TimeFields) × Int) := do
  let fields ← scanDateTime
  let offset ← scanOffset
  return (fields, offset)

/-- The timestamp with the given fields. -/
def dateTimeOf (date : DateFields) (time : TimeFields) : Except CalendarError DateTime := do
  let d ← date.date
  let t ← time.time
  return ⟨d, t⟩

def Date.read (cs : List Char) : Except CalendarError Date := do
  let fields ← readAll scanDate cs
  fields.date

def TimeOfDay.read (cs : List Char) : Except CalendarError TimeOfDay := do
  let fields ← readAll scanTime cs
  fields.time

def DateTime.read (cs : List Char) : Except CalendarError DateTime := do
  let (date, time) ← readAll scanDateTime cs
  dateTimeOf date time

/-- Reads a timestamp with its offset from universal time, and answers the timestamp there. -/
def DateTime.readWithOffset (cs : List Char) : Except CalendarError DateTime := do
  let ((date, time), offset) ← readAll scanDateTimeOffset cs
  let t ← dateTimeOf date time
  t.atOffset offset

end InProcessSql.Calendar
