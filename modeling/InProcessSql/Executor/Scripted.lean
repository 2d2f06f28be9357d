import InProcessSql.Executor.Basic

/-!
# The scripted executor

An executor in memory that answers as it has been told to. Results of queries, counts of affected rows and
failures are queued beforehand and used up in order; a failure waits for the next call of its operation.
Every call is recorded.

Datums count the values that the executor has been given or has handed out, from one on; datum zero goes
with nulls.
-/

namespace InProcessSql

/-- A call of the scripted executor. Values that are bound are recorded as the executor knows them. -/
inductive Call where
  | ready
  | prepare (sql : String) (oids : List Oid)
  | execute (sql : String) (readOnly : Bool) (countLimit : Int)
  | executePrepared (sql : String) (values : List Value)
  | openCursor (sql : String) (values : List Value)
  | fetch
  | dimensions
  | columns
  | currentRow
  | finish
  deriving Repr, Inhabited

def Call.isFinish : Call → Bool
  | .finish => true
  | _ => false

/-- An operation that can be made to fail. -/
inductive Operation where
  | prepare
  | execute
  | openCursor
  | fetch
  deriving DecidableEq, Repr, Inhabited

/-- A failure that waits for an operation. -/
structure Failure where
  operation : Operation
  code : Int32
  message : String
  deriving DecidableEq, Repr, Inhabited

def Failure.error (f : Failure) : Error := .executor f.code f.message

/-- The result of a query. -/
structure ResultSet where
  columns : Columns := {}
  rows : List (List Value) := []
  deriving Repr, Inhabited

namespace Scripted

/-- A place of the scripted executor, whose datums are numbers. -/
abbrev Place := Slot Nat

/-- A prepared statement, which is known by its text. -/
structure Statement where
  sql : String
  deriving DecidableEq, Repr, Inhabited

/-- A cursor, which is known by its number among all cursors opened. -/
structure Cursor where
  id : Nat
  deriving DecidableEq, Repr, Inhabited

/-- The cursor that is open. -/
structure OpenCursor where
  id : Nat
  result : ResultSet
  /-- The position of the row that the next fetch makes current. -/
  next : Nat := 0
  current : Option Nat := none
  deriving Repr, Inhabited

end Scripted

/-- The state of a scripted executor. -/
structure Scripted where
  isReady : Bool := true
  /-- The results of the next cursors. -/
  results : List ResultSet := []
  affected : List Nat := []
  /-- The failures that wait. -/
  failures : List Failure := []
  calls : List Call := []
  /-- The values that datums stand for. -/
  datums : List Value := []
  cursor : Option Scripted.OpenCursor := none
  opened : Nat := 0
  deriving Repr, Inhabited

namespace Scripted

/-! ## Scripts -/

def pushResult (r : ResultSet) (s : Scripted) : Scripted := { s with results := s.results ++ [r] }

def pushAffected (n : Nat) (s : Scripted) : Scripted := { s with affected := s.affected ++ [n] }

/-- Makes the next call of an operation fail. -/
def failNext (f : Failure) (s : Scripted) : Scripted := { s with failures := s.failures ++ [f] }

def setReady (ready : Bool) (s : Scripted) : Scripted := { s with isReady := ready }

/-- What a scripted executor can be told beforehand. -/
inductive Instruction where
  | result (r : ResultSet)
  | affected (n : Nat)
  | fail (f : Failure)
  | ready (isReady : Bool)
  deriving Repr, Inhabited

/-- Follows an instruction. -/
def follow : Instruction → Scripted → Scripted
  | .result r => pushResult r
  | .affected n => pushAffected n
  | .fail f => failNext f
  | .ready isReady => setReady isReady

def clearCalls (s : Scripted) : Scripted := { s with calls := [] }

def finishCount (s : Scripted) : Nat := s.calls.countP Call.isFinish

/-! ## Pieces of the operations -/

/-- Records a call. -/
def record (call : Call) (s : Scripted) : Scripted := { s with calls := s.calls ++ [call] }

/-- The failure of an operation that waits longest, and the failures without it. -/
def takeFailure (operation : Operation) : List Failure → Option Failure × List Failure
  | [] => (none, [])
  | f :: fs =>
    if f.operation = operation then (some f, fs)
    else
      let (found, rest) := takeFailure operation fs
      (found, f :: rest)

/-- Fails if a failure of the operation waits, which is then used up. -/
def checkFailure (operation : Operation) : Step Scripted Error Unit := fun s =>
  match takeFailure operation s.failures with
  | (some f, rest) => (.error f.error, { s with failures := rest })
  | (none, _) => (.ok (), s)

/-- The value that a datum stands for. -/
def valueOf? (s : Scripted) (d : Nat) : Option Value :=
  if d = 0 then none else s.datums[d - 1]?

/-- The value in a place, null for an unknown datum. -/
def placeValue (s : Scripted) (p : Place) : Value :=
  if p.isNull then .null else (s.valueOf? p.datum).getD .null

/-- Makes a datum of a value. -/
def store (v : Value) (s : Scripted) : Nat × Scripted :=
  (s.datums.length + 1, { s with datums := s.datums ++ [v] })

/-- The place of a value. -/
def storePlace (v : Value) (s : Scripted) : Place × Scripted :=
  if v.isNull then (⟨0, true⟩, s)
  else
    let (d, s) := store v s
    (⟨d, false⟩, s)

/-- Writes values over places, as many as there are of both. -/
def fillPlaces : List Value → List Place → Scripted → List Place × Scripted
  | v :: vs, _ :: places, s =>
    let (place, s) := storePlace v s
    let (places, s) := fillPlaces vs places s
    (place :: places, s)
  | [], places, s => (places, s)
  | _, [], s => ([], s)

/-- The affected-row count of an execution. -/
def takeAffected (s : Scripted) : Nat × Scripted :=
  match s.affected with
  | [] => (0, s)
  | n :: rest => (n, { s with affected := rest })

/-- Opens a cursor over the next result. -/
def takeResult (s : Scripted) : Cursor × Scripted :=
  let id := s.opened + 1
  (⟨id⟩, { s with
    results := s.results.tail
    cursor := some { id, result := s.results.headD {} }
    opened := id })

/-- The cursor with its next row current. -/
def OpenCursor.advance (c : OpenCursor) : OpenCursor :=
  if c.next < c.result.rows.length then { c with current := some c.next, next := c.next + 1 }
  else { c with current := none }

/-- Moves a cursor, if it is the one that is open. -/
def moveCursor (cursor : Cursor) : Step Scripted Error Unit := fun s =>
  match s.cursor with
  | some c =>
    if c.id = cursor.id then (.ok (), { s with cursor := some c.advance })
    else (.error (.executor (-5) "cursor is not open"), s)
  | none => (.error (.executor (-5) "cursor is not open"), s)

/-- The current row of the open cursor. -/
def currentRow? (s : Scripted) : Option (List Value) :=
  s.cursor.bind fun c => c.current.bind fun i => c.result.rows[i]?

/-! ## The operations -/

def prepare (sql : String) (oids : List Oid) : Step Scripted Error Statement := do
  Step.update (record (.prepare sql oids))
  checkFailure .prepare
  return ⟨sql⟩

def execute (sql : String) (readOnly : Bool) (countLimit : Int) : Step Scripted Error Nat := do
  Step.update (record (.execute sql readOnly countLimit))
  checkFailure .execute
  Step.total takeAffected

def executePrepared (statement : Statement) (places : List Place) : Step Scripted Error Nat := do
  Step.update fun s => s.record (.executePrepared statement.sql (places.map s.placeValue))
  checkFailure .execute
  Step.total takeAffected

def openCursor (statement : Statement) (places : List Place) : Step Scripted Error Cursor := do
  Step.update fun s => s.record (.openCursor statement.sql (places.map s.placeValue))
  checkFailure .openCursor
  Step.total takeResult

def fetch (cursor : Cursor) : Step Scripted Error Unit := do
  Step.update (record .fetch)
  checkFailure .fetch
  moveCursor cursor

/-- The number of current rows, which is one or zero, and the number of columns. -/
def dimensions (s : Scripted) : (Nat × Nat) × Scripted :=
  let size :=
    match s.cursor with
    | some c => (if c.current.isSome then 1 else 0, c.result.columns.size)
    | none => (0, 0)
  (size, s.record .dimensions)

def columns (count : Nat) : Step Scripted Error Columns := do
  Step.update (record .columns)
  Step.total fun s =>
    let all := (s.cursor.map fun c => c.result.columns.toList).getD []
    (⟨all.take count⟩, s)

def currentRow (places : List Place) (s : Scripted) : List Place × Scripted :=
  let s := s.record .currentRow
  match s.currentRow? with
  | some row => fillPlaces row places s
  | none => (places, s)

/-- Ends the context and closes the cursor. -/
def finish (s : Scripted) : Scripted := { s.record .finish with cursor := none }

def readDatum (d : Nat) (oid : Oid) (s : Scripted) : DatumReading × Scripted :=
  match s.valueOf? d with
  | some v => (.value (.ok v), s)
  | none => (.value (.error (.decode oid (.unknownDatum d))), s)

/-- There are as many places as before. -/
theorem length_fillPlaces (vs : List Value) (places : List Place) (s : Scripted) :
    (fillPlaces vs places s).1.length = places.length := by
  fun_induction fillPlaces vs places s <;> simp_all

/-- A row is as long as the places that it is written over. -/
theorem length_currentRow (places : List Place) (s : Scripted) :
    (currentRow places s).1.length = places.length := by
  simp only [currentRow]
  split
  · exact length_fillPlaces _ _ _
  · rfl

instance : Executor Scripted where
  Statement := Statement
  Cursor := Cursor
  Datum := Nat
  noDatum := 0
  ready s := (s.isReady, s.record .ready)
  prepare := prepare
  execute := execute
  executePrepared statement places _ _ := executePrepared statement places
  openCursor := openCursor
  fetch := fetch
  dimensions := dimensions
  columns := columns
  currentRow := currentRow
  length_currentRow := length_currentRow
  finish := finish
  readDatum := readDatum
  writeDatum v _ := Step.total (store v)

end Scripted

end InProcessSql
