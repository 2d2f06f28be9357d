import InProcessSql.Connection

/-!
# Readers

A reader runs over the rows of a query once, from the first to the last. While it is active it owns a
cursor and the context of the executor; the context is released when the rows are exhausted, when a fetch
fails, or when the reader is closed or given up. The columns are asked for with the first row and stay
known from then on.

`Reader.read` moves to the next row. The accessors of values need a current row; those of columns need a
reader that is not closed.
-/

namespace InProcessSql

/-- A statement that the executor has prepared. -/
structure Prepared (σ : Type) [Executor σ] where
  handle : Executor.Statement σ
  sql : String
  oids : List Oid

/-- How far a reader has come. -/
inductive Phase (σ : Type) [Executor σ] where
  /-- The cursor is open. There is a current row from the first one on. -/
  | active (statement : Prepared σ) (cursor : Executor.Cursor σ) (row : Option (List (Executor.Place σ)))
  | exhausted
  /-- The reader has been closed, or a fetch has failed. -/
  | closed

/-- A reader over the rows of a command. -/
structure Reader (σ : Type) [Executor σ] where
  phase : Phase σ
  /-- The columns, from the first row on. -/
  columns : Option Columns := none
  rowsFetched : Nat := 0
  /-- The number of rows that a statement without rows has affected, -1 for queries. -/
  recordsAffected : Int := -1

namespace Reader

variable {σ : Type} [Executor σ]

/-- The reader of an open cursor. -/
def ofCursor (statement : Prepared σ) (cursor : Executor.Cursor σ) : Reader σ :=
  { phase := .active statement cursor none }

/-- The greatest count of affected rows that a reader tells. -/
def maxAffected : Nat := Nat.pow 2 63 - 1

/-- The reader of a statement that returns no rows. -/
def ofAffected (n : Nat) : Reader σ := { phase := .exhausted, recordsAffected := (min n maxAffected : Nat) }

def isClosed (r : Reader σ) : Bool :=
  match r.phase with
  | .closed => true
  | _ => false

/-- The statement behind an active reader. -/
def statement? (r : Reader σ) : Option (Prepared σ) :=
  match r.phase with
  | .active statement _ _ => some statement
  | _ => none

/-- The current row. -/
def row? (r : Reader σ) : Option (List (Executor.Place σ)) :=
  match r.phase with
  | .active _ _ row => row
  | _ => none

def hasRow (r : Reader σ) : Bool := r.row?.isSome

/-- The number of columns, zero before the first row. -/
def fieldCount (r : Reader σ) : Nat := (r.columns.map Columns.size).getD 0

/-! ## Moving -/

/-- The columns of the rows: the ones known already, or those that the executor tells. -/
def columnsOf (known : Option Columns) (count : Nat) : Action σ Columns :=
  match known with
  | some cs => Step.ret cs
  | none => Connection.onExecutor (Executor.columns count)

/-- Fetches the next row, if there is one, over the places of the row before. -/
def fetchRow (cursor : Executor.Cursor σ) (known : Option Columns)
    (previous : Option (List (Executor.Place σ))) :
    Action σ (Option (Columns × List (Executor.Place σ))) := do
  Connection.onExecutor (Executor.fetch cursor)
  let (rows, count) ← Step.total (Connection.onExecutor Executor.dimensions)
  Step.update (Connection.emit (.fetched rows count))
  if rows = 0 then return none
  let columns ← columnsOf known count
  -- The first row is written over blank places, every later one over the row before it.
  let places := previous.getD (List.replicate columns.size Executor.blankPlace)
  let row ← Step.total (Connection.onExecutor (Executor.currentRow places))
  return some (columns, row)

/-- Moves to the next row, and answers whether there is one. Once there is none, or once the reader is
closed, the executor is not asked again. -/
def read (r : Reader σ) (c : Connection σ) : Except Error Bool × Reader σ × Connection σ :=
  match r.phase with
  | .active statement cursor row =>
    match fetchRow cursor r.columns row c with
    | (.ok (some (columns, row)), c) =>
      (.ok true,
       { r with
         phase := .active statement cursor (some row)
         columns := some columns
         rowsFetched := r.rowsFetched + 1 },
       c)
    | (.ok none, c) =>
      (.ok false, { r with phase := .exhausted }, (c.emit (.exhausted r.rowsFetched)).release)
    | (.error e, c) =>
      (.error e, { r with phase := .closed }, (c.emit (.fetchFailed e)).release)
  | _ => (.ok false, r, c)

/-- Closes the reader, and releases the context if the reader has it. -/
def close (r : Reader σ) (c : Connection σ) : Reader σ × Connection σ :=
  match r.phase with
  | .active _ _ _ => ({ r with phase := .closed }, c.release)
  | _ => ({ r with phase := .closed }, c)

/-- Gives the reader up. -/
def dispose (r : Reader σ) (c : Connection σ) : Connection σ :=
  match r.phase with
  | .active _ _ _ => (c.emit (.abandoned r.rowsFetched)).release
  | _ => c

/-! ## Columns -/

/-- The column at a position. -/
def column (r : Reader σ) (i : Nat) : Except Error Column :=
  if r.isClosed then .error .readerClosed
  else
    match r.columns.bind fun cs => cs.get? i with
    | some column => .ok column
    | none => .error (.columnOutOfBounds i r.fieldCount)

/-- The position of the column of that name. -/
def ordinal (r : Reader σ) (name : String) : Except Error Nat :=
  if r.isClosed then .error .readerClosed
  else
    match r.columns.bind fun cs => cs.find? name with
    | some i => .ok i
    | none => .error (.columnNotFound name)

def columnName (r : Reader σ) (i : Nat) : Except Error String := (r.column i).map Column.name

def columnType (r : Reader σ) (i : Nat) : Except Error Oid := (r.column i).map Column.oid

def columnTypeName (r : Reader σ) (i : Nat) : Except Error String := (r.column i).map Column.typeName

/-! ## Values -/

/-- A place of the current row. -/
def place (r : Reader σ) (i : Nat) : Except Error (Executor.Place σ) :=
  match r.row?.bind fun row => row[i]? with
  | some place => .ok place
  | none => .error .noCurrentRow

def isNull (r : Reader σ) (i : Nat) : Except Error Bool :=
  match r.column i with
  | .error e => .error e
  | .ok _ => (r.place i).map Slot.isNull

/-- A value of the current row. -/
def value (r : Reader σ) (i : Nat) : Action σ Value :=
  match r.column i with
  | .error e => Step.fail e
  | .ok column =>
    match r.place i with
    | .error e => Step.fail e
    | .ok place =>
      if place.isNull then Step.ret .null else Connection.readDatum place.datum column.oid

/-- The name of a column as a message tells it. -/
def label (r : Reader σ) (i : Nat) : String :=
  match r.columnName i with
  | .ok name => name
  | .error _ => String.ofList (Number.digits i)

/-- A value of the current row, read as a target. -/
def get (r : Reader σ) (target : Target) (i : Nat) : Action σ target.Carrier := do
  let v ← r.value i
  match target.read v with
  | .ok a => return a
  | .error cause => Step.fail (.invalidCast (r.label i) target cause)

/-- The value of the column of that name in the current row, read as a target. -/
def getByName (r : Reader σ) (target : Target) (name : String) : Action σ target.Carrier :=
  match r.ordinal name with
  | .error e => Step.fail e
  | .ok i => r.get target i

/-- Writes the values of the columns `i`, `i + 1`, …, of which there are `count` in all, over the values of
a buffer, up to the first one that fails. -/
def copyFrom (r : Reader σ) (count i : Nat) :
    List Value → Connection σ → Except Error Unit × List Value × Connection σ
  | [], c => (.ok (), [], c)
  | old :: rest, c =>
    if i < count then
      match r.value i c with
      | (.error e, c) => (.error e, old :: rest, c)
      | (.ok v, c) =>
        let (outcome, rest, c) := copyFrom r count (i + 1) rest c
        (outcome, v :: rest, c)
    else (.ok (), old :: rest, c)

/-- Writes the values of the current row over a buffer, and answers how many there are. -/
def values (r : Reader σ) (buffer : List Value) (c : Connection σ) :
    Except Error Nat × List Value × Connection σ :=
  let count := min buffer.length r.fieldCount
  let (outcome, buffer, c) := r.copyFrom count 0 buffer c
  (outcome.map fun _ => count, buffer, c)

end Reader

end InProcessSql
