import InProcessSql.Sql.Placeholder
import InProcessSql.Text.Utf8

/-!
# Scanning the bytes of a command text

Placeholders can be numbered on the bytes of a text, by index and without taking characters apart: whatever opens or
closes a stretch is ASCII, and all other bytes are passed over. `scan` does so.

A jump over two bytes may go past the end or into a character, so every access is checked. A piece of the text is there
only if it begins and ends between characters (`pieceOf?`), and the depth of comments can be lowered only if it is not
zero. Where something is asked for that is not there, the scan fails.
-/

namespace InProcessSql.Sql

open InProcessSql.Text

/-! ## Bytes and pieces -/

/-- A byte of a character that may start an identifier. -/
def isStartByte (b : UInt8) : Bool :=
  (0x41 ≤ b && b ≤ 0x5A) || (0x61 ≤ b && b ≤ 0x7A) || b == '_'.toUInt8 || decide (0x80 ≤ b)

/-- The byte of a digit. -/
def isDigitByte (b : UInt8) : Bool := 0x30 ≤ b && b ≤ 0x39

/-- A byte of a character that may continue an identifier. -/
def isIdentByte (b : UInt8) : Bool := isStartByte b || isDigitByte b

/-- The byte before an index. -/
def byteBefore? (bytes : List UInt8) (i : Nat) (h : i ≤ bytes.length) : Option UInt8 :=
  if h : 0 < i then some bytes[i - 1] else none

/-- The bytes from an index on, if it is not past the end. -/
def bytesFrom? (bytes : List UInt8) (i : Nat) : Option (List UInt8) :=
  if i ≤ bytes.length then some (bytes.drop i) else none

/-- The bytes between two indices, if they are in order and not past the end. -/
def bytesBetween? (bytes : List UInt8) (i j : Nat) : Option (List UInt8) :=
  if i ≤ j ∧ j ≤ bytes.length then some (bytes.extract i j) else none

/-- Where bytes stand first in others. -/
def indexOf? (needle : List UInt8) : List UInt8 → Option Nat
  | [] => if needle.isEmpty then some 0 else none
  | b :: bs => if needle.isPrefixOf (b :: bs) then some 0 else (indexOf? needle bs).map (· + 1)

/-- The index is one between two characters of the text, or at one of its ends. -/
def IsBoundary (sql : String) (i : Nat) : Prop := String.Pos.Raw.IsValid sql ⟨i⟩

instance (sql : String) (i : Nat) : Decidable (IsBoundary sql i) :=
  inferInstanceAs (Decidable (String.Pos.Raw.IsValid sql ⟨i⟩))

/-- The characters of a text between two indices, if these are in order and stand between characters. -/
def pieceOf? (sql : String) (i j : Nat) : Option (List Char) :=
  if i ≤ j ∧ IsBoundary sql i ∧ IsBoundary sql j then some (ofBytes ((toBytes sql).extract i j)).toList else none

/-! ## The ends of stretches -/

/-- The end of a quoted section, from an index inside it on. -/
def quotedEnd (bytes : List UInt8) (quote : UInt8) (escapes : Bool) (i : Nat) : Nat :=
  if h : i < bytes.length then
    if escapes && bytes[i] == '\\'.toUInt8 then quotedEnd bytes quote escapes (i + 2)
    else if bytes[i] == quote then
      if bytes[i + 1]? == some quote then quotedEnd bytes quote escapes (i + 2) else i + 1
    else quotedEnd bytes quote escapes (i + 1)
  else bytes.length
termination_by bytes.length - i

/-- The index behind the quoted section that opens at an index. -/
def skipQuoted (bytes : List UInt8) (start : Nat) (quote : UInt8) (escapes : Bool) : Nat :=
  quotedEnd bytes quote escapes (start + 1)

/-- The index behind the line break that ends the line of an index, or the end of the text. -/
def skipLine (bytes : List UInt8) (start : Nat) : Option Nat :=
  (bytesFrom? bytes start).map fun rest =>
    match rest.findIdx? (· == '\n'.toUInt8) with
    | some p => start + p + 1
    | none => bytes.length

/-- The end of the comment that has been opened so many times more than closed before an index. -/
def commentEnd? (bytes : List UInt8) (depth i : Nat) : Option Nat :=
  if h : i < bytes.length then
    if bytes[i] == '/'.toUInt8 && bytes[i + 1]? == some '*'.toUInt8 then commentEnd? bytes (depth + 1) (i + 2)
    else if bytes[i] == '*'.toUInt8 && bytes[i + 1]? == some '/'.toUInt8 then
      match depth with
      | 0 => none
      | depth + 1 => if depth = 0 then some (i + 2) else commentEnd? bytes depth (i + 2)
    else commentEnd? bytes depth (i + 1)
  else some bytes.length
termination_by bytes.length - i

/-- The index behind the block comment that opens at an index. -/
def skipBlockComment (bytes : List UInt8) (start : Nat) : Option Nat := commentEnd? bytes 0 start

/-- The number of bytes of the tag that a dollar quote may have. -/
def tagLength (rest : List UInt8) : Nat :=
  if rest.head?.any isStartByte then (rest.takeWhile isIdentByte).length else 0

/-- The index behind what belongs to the dollar sign at an index. -/
def skipDollar (bytes : List UInt8) (start : Nat) : Option Nat := do
  let rest ← bytesFrom? bytes (start + 1)
  let digits := (rest.takeWhile isDigitByte).length
  if 0 < digits then
    return start + 1 + digits
  if rest[tagLength rest]? != some '$'.toUInt8 then
    return start + 1
  let delimiter ← bytesBetween? bytes start (start + tagLength rest + 2)
  let body := start + delimiter.length
  let behind ← bytesFrom? bytes body
  -- Windows have to have a byte.
  if delimiter.length = 0 then none
  else
    match indexOf? delimiter behind with
    | some p => return body + p + delimiter.length
    | none => return start + 1

/-- The end of a word, from an index inside it on. -/
def wordEnd (bytes : List UInt8) (i : Nat) : Nat :=
  if h : i < bytes.length then
    if isIdentByte bytes[i] || bytes[i] == '$'.toUInt8 then wordEnd bytes (i + 1) else i
  else i
termination_by bytes.length - i

/-! ## The scan -/

/-- How far a scan has come. -/
structure Progress where
  index : Nat := 0
  /-- The index up to which the text has been written. -/
  copied : Nat := 0
  written : List Char := []
  deriving DecidableEq, Repr

/-- The scan has come to an index, with nothing written. -/
def Progress.moveTo (s : Progress) (i : Nat) : Progress := { s with index := i }

/-- Whether a quote at an index opens an escape string. -/
def escapesAt (bytes : List UInt8) (i : Nat) (h : i ≤ bytes.length) : Bool :=
  (byteBefore? bytes i h).any (fun b => b == 'E'.toUInt8 || b == 'e'.toUInt8) &&
    !(byteBefore? bytes (i - 1) (by omega)).any isIdentByte

/-- Looks at an at sign. If it and what follows are a placeholder that a name fits, then the text before it and its
number are written. -/
def turnAt (names : List String) (sql : String) (s : Progress) (h : s.index ≤ (toBytes sql).length) :
    Option Progress := do
  let start := s.index + 1
  let rest ← bytesFrom? (toBytes sql) start
  let stop := start + (rest.takeWhile isIdentByte).length
  let next := s.moveTo (max stop (s.index + 1))
  if (toBytes sql)[start]?.any isStartByte && !(byteBefore? (toBytes sql) s.index h).any isIdentByte then
    let ident ← pieceOf? sql start stop
    match positionOf? names ident with
    | some k =>
      let piece ← pieceOf? sql s.copied s.index
      return { next with copied := stop, written := s.written ++ piece ++ positional k }
    | none => return next
  return next

/-- Looks at the byte at the index, and moves behind all that belongs to it. -/
def turn (names : List String) (sql : String) (s : Progress) (h : s.index < (toBytes sql).length) :
    Option Progress :=
  let bytes := toBytes sql
  let b := bytes[s.index]
  let next := bytes[s.index + 1]?
  if b == '\x27'.toUInt8 then
    some (s.moveTo (skipQuoted bytes s.index '\x27'.toUInt8 (escapesAt bytes s.index (Nat.le_of_lt h))))
  else if b == '\x22'.toUInt8 then some (s.moveTo (skipQuoted bytes s.index '\x22'.toUInt8 false))
  else if b == '-'.toUInt8 && next == some '-'.toUInt8 then (skipLine bytes s.index).map s.moveTo
  else if b == '/'.toUInt8 && next == some '*'.toUInt8 then (skipBlockComment bytes s.index).map s.moveTo
  else if b == '$'.toUInt8 then (skipDollar bytes s.index).map s.moveTo
  else if b == '@'.toUInt8 then turnAt names sql s (Nat.le_of_lt h)
  else if isStartByte b then some (s.moveTo (wordEnd bytes (s.index + 1)))
  else some (s.moveTo (s.index + 1))

/-! ### A turn moves on -/

theorem min_le_quotedEnd (bytes : List UInt8) (quote : UInt8) (escapes : Bool) (i : Nat) :
    min i bytes.length ≤ quotedEnd bytes quote escapes i := by
  fun_induction quotedEnd bytes quote escapes i <;> omega

/-- A quoted stretch ends behind its first quote. -/
theorem lt_skipQuoted {bytes : List UInt8} {start : Nat} (h : start < bytes.length) (quote : UInt8) (escapes : Bool) :
    start < skipQuoted bytes start quote escapes := by
  have hmin := min_le_quotedEnd bytes quote escapes (start + 1)
  rw [skipQuoted]
  omega

/-- A line comment ends behind its start. -/
theorem lt_of_skipLine {bytes : List UInt8} {start j : Nat} (h : start < bytes.length)
    (hskip : skipLine bytes start = some j) : start < j := by
  obtain ⟨rest, -, hj⟩ := Option.map_eq_some_iff.1 hskip
  rw [← hj]
  split
  · exact Nat.lt_succ_of_le (Nat.le_add_right _ _)
  · exact h

theorem min_le_of_commentEnd? {bytes : List UInt8} {depth i j : Nat} (hend : commentEnd? bytes depth i = some j) :
    min (i + 1) bytes.length ≤ j := by
  fun_induction commentEnd? bytes depth i <;> grind

/-- A block comment ends behind its start. -/
theorem lt_of_skipBlockComment {bytes : List UInt8} {start j : Nat} (h : start < bytes.length)
    (hskip : skipBlockComment bytes start = some j) : start < j := by
  have hmin := min_le_of_commentEnd? hskip
  omega

/-- What starts with a dollar sign ends behind it. -/
theorem lt_of_skipDollar {bytes : List UInt8} {start j : Nat} (hskip : skipDollar bytes start = some j) :
    start < j := by
  obtain ⟨rest, -, hskip⟩ := Option.bind_eq_some_iff.1 hskip
  simp only at hskip
  split at hskip
  · cases hskip
    omega
  · split at hskip
    · cases hskip
      omega
    · obtain ⟨delimiter, -, hskip⟩ := Option.bind_eq_some_iff.1 hskip
      obtain ⟨behind, -, hskip⟩ := Option.bind_eq_some_iff.1 hskip
      split at hskip
      · cases hskip
      · split at hskip <;> cases hskip <;> omega

/-- A word ends no sooner than it starts. -/
theorem le_wordEnd (bytes : List UInt8) (i : Nat) : i ≤ wordEnd bytes i := by
  fun_induction wordEnd bytes i <;> omega

/-- Each turn takes at least a byte. -/
theorem index_lt_of_turnAt {names : List String} {sql : String} {s s' : Progress}
    {h : s.index ≤ (toBytes sql).length} (hturn : turnAt names sql s h = some s') : s.index < s'.index := by
  obtain ⟨rest, -, hturn⟩ := Option.bind_eq_some_iff.1 hturn
  have hmax : s.index < max (s.index + 1 + (rest.takeWhile isIdentByte).length) (s.index + 1) := by omega
  split at hturn
  · obtain ⟨ident, -, hturn⟩ := Option.bind_eq_some_iff.1 hturn
    split at hturn
    · obtain ⟨piece, -, hturn⟩ := Option.bind_eq_some_iff.1 hturn
      cases hturn
      exact hmax
    · cases hturn
      exact hmax
  · cases hturn
    exact hmax

/-- A turn moves on. -/
theorem index_lt_of_turn {names : List String} {sql : String} {s s' : Progress}
    {h : s.index < (toBytes sql).length} (hturn : turn names sql s h = some s') : s.index < s'.index := by
  -- Three of the skips may fail; where they do not, they move on.
  have hmap : ∀ {x : Option Nat}, (∀ j, x = some j → s.index < j) → x.map s.moveTo = some s' →
      s.index < s'.index := by
    rintro x hx hturn
    obtain ⟨j, hj, rfl⟩ := Option.map_eq_some_iff.1 hturn
    exact hx j hj
  simp only [turn] at hturn
  split at hturn
  · cases hturn
    exact lt_skipQuoted h _ _
  split at hturn
  · cases hturn
    exact lt_skipQuoted h _ _
  split at hturn
  · exact hmap (fun j hj => lt_of_skipLine h hj) hturn
  split at hturn
  · exact hmap (fun j hj => lt_of_skipBlockComment h hj) hturn
  split at hturn
  · exact hmap (fun j hj => lt_of_skipDollar hj) hturn
  split at hturn
  · exact index_lt_of_turnAt hturn
  split at hturn
  · cases hturn
    exact le_wordEnd _ _
  · cases hturn
    exact Nat.lt_succ_self _

/-- Takes turns up to the end of the text. -/
def scanFrom (names : List String) (sql : String) (s : Progress) : Option Progress :=
  if h : s.index < (toBytes sql).length then
    match hnext : turn names sql s h with
    | none => none
    | some next =>
      have := index_lt_of_turn hnext
      scanFrom names sql next
  else some s
termination_by (toBytes sql).length - s.index

/-- The characters of the text with its placeholders numbered by their position in `names`. -/
def scan (names : List String) (sql : String) : Option (List Char) := do
  let s ← scanFrom names sql {}
  let rest ← pieceOf? sql s.copied (toBytes sql).length
  return s.written ++ rest

end InProcessSql.Sql
