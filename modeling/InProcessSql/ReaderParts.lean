import InProcessSql.Workload.CommandRequest

/-!
# Readers part by part

A `Reader` keeps together what holds together: only a reader that is active has a statement, a cursor and a row. A
`ReaderParts` is a reader whose ten parts are updated one by one. Whether the parts still go together after each step
is then a matter of the order of the updates, and not of the type.

The two buffers of a row are looked up at the position of a column without asking whether they reach that far. The
accessors that do so answer `none` where the look-up fails, and so does each request that uses one of them.
-/

namespace InProcessSql

/-- The context of an executor in the hands of the one who ends it. -/
structure ReaderSession where
  /-- Whether the context is still to be ended. -/
  active : Bool
  deriving DecidableEq, Repr, Inhabited

namespace ReaderSession

variable {σ : Type} [Executor σ]

/-- Ends the context, unless that has been done. -/
def finish (session : ReaderSession) (c : Connection σ) : ReaderSession × Connection σ :=
  if session.active then ({ session with active := false }, c.release) else (session, c)

/-- Gives the session up, which ends the context at the latest. -/
def dispose (session : ReaderSession) (c : Connection σ) : Connection σ := (session.finish c).2

end ReaderSession

/-- How far a reader has come, by itself. -/
inductive Stage where
  | active
  | exhausted
  | closed
  deriving DecidableEq, Repr, Inhabited

/-- A reader whose parts are kept apart. -/
structure ReaderParts (σ : Type) [Executor σ] where
  session : Option ReaderSession
  statement : Option (Prepared σ)
  cursor : Option (Executor.Cursor σ)
  stage : Stage
  columns : Option Columns := none
  /-- The datums of the current row, as far as they have been written. -/
  values : List (Executor.Datum σ) := []
  /-- The null flags of the current row. -/
  nulls : List Bool := []
  hasRow : Bool := false
  rowsFetched : Nat := 0
  recordsAffected : Int := -1

namespace ReaderParts

variable {σ : Type} [Executor σ]

/-- The reader of an open cursor. -/
def ofCursor (session : ReaderSession) (statement : Prepared σ) (cursor : Executor.Cursor σ) : ReaderParts σ :=
  { session := some session, statement := some statement, cursor := some cursor, stage := .active }

/-- The reader of a statement that returns no rows. -/
def ofAffected (n : Nat) : ReaderParts σ :=
  { session := none
    statement := none
    cursor := none
    stage := .exhausted
    recordsAffected := (min n Reader.maxAffected : Nat) }

def fieldCount (p : ReaderParts σ) : Nat := (p.columns.map Columns.size).getD 0

/-! ## Moving -/

/-- Asks for the columns, unless they are known, and makes room for a row of them. -/
def prepareBuffers (p : ReaderParts σ) (count : Nat) (c : Connection σ) :
    Except Error Unit × ReaderParts σ × Connection σ :=
  match p.columns with
  | some _ => (.ok (), p, c)
  | none =>
    match c.onExecutor (Executor.columns count) with
    | (.error e, c) => (.error e, p, c)
    | (.ok columns, c) =>
      let p := { p with values := List.replicate columns.size Executor.noDatum }
      let p := { p with nulls := List.replicate columns.size false }
      (.ok (), { p with columns := some columns }, c)

/-- Has the executor write the current row over the two buffers. Neither of them changes its length: what the row
does not reach stays as it was. -/
def writeRow (p : ReaderParts σ) (c : Connection σ) : ReaderParts σ × Connection σ :=
  let (row, c) := c.onExecutor (Executor.currentRow (List.zipWith Slot.mk p.values p.nulls))
  ({ p with
      values := row.map Slot.datum ++ p.values.drop row.length
      nulls := row.map Slot.isNull ++ p.nulls.drop row.length },
    c)

/-- Takes the current row in, and counts it. -/
def takeRow (p : ReaderParts σ) (count : Nat) (c : Connection σ) :
    Except Error Bool × ReaderParts σ × Connection σ :=
  match p.prepareBuffers count c with
  | (.error e, p, c) => (.error e, p, c)
  | (.ok (), p, c) =>
    let (p, c) := p.writeRow c
    (.ok true, { p with hasRow := true, rowsFetched := p.rowsFetched + 1 }, c)

/-- Fetches the next row, if there is one, into the buffers. -/
def fetch (p : ReaderParts σ) (c : Connection σ) : Except Error Bool × ReaderParts σ × Connection σ :=
  let p := { p with hasRow := false }
  match p.session, p.cursor with
  | some _, some cursor =>
    match c.onExecutor (Executor.fetch cursor) with
    | (.error e, c) => (.error e, p, c)
    | (.ok (), c) =>
      let ((rows, count), c) := c.onExecutor Executor.dimensions
      let c := c.emit (.fetched rows count)
      if rows = 0 then (.ok false, p, c) else p.takeRow count c
  | _, _ => (.ok false, p, c)

/-- Takes the row, the cursor and the statement away, and then ends the session, if there is one. -/
def release (p : ReaderParts σ) (c : Connection σ) : ReaderParts σ × Connection σ :=
  let p := { p with hasRow := false, cursor := none, statement := none }
  match p.session with
  | some session =>
    let (session, c) := session.finish c
    ({ p with session := none }, session.dispose c)
  | none => (p, c)

/-- Moves to the next row, and answers whether there is one. -/
def read (p : ReaderParts σ) (c : Connection σ) : Except Error Bool × ReaderParts σ × Connection σ :=
  if p.stage = .active then
    match p.fetch c with
    | (.ok true, p, c) => (.ok true, p, c)
    -- The flag is set before the session is ended here, and after it where the fetch has failed.
    | (.ok false, p, c) =>
      let (p, c) := { p with stage := .exhausted }.release (c.emit (.exhausted p.rowsFetched))
      (.ok false, p, c)
    | (.error e, p, c) =>
      let (p, c) := p.release (c.emit (.fetchFailed e))
      (.error e, { p with stage := .closed }, c)
  else (.ok false, p, c)

def close (p : ReaderParts σ) (c : Connection σ) : ReaderParts σ × Connection σ :=
  if p.stage = .closed then (p, c)
  else
    let (p, c) := p.release c
    ({ p with stage := .closed }, c)

/-- Gives the reader up, and with it the session that it may still have. -/
def dispose (p : ReaderParts σ) (c : Connection σ) : Connection σ :=
  let c := if p.stage = .active then c.emit (.abandoned p.rowsFetched) else c
  let (p, c) := p.close c
  match p.session with
  | some session => session.dispose c
  | none => c

/-! ## Columns -/

def column (p : ReaderParts σ) (i : Nat) : Except Error Column :=
  if p.stage = .closed then .error .readerClosed
  else
    match p.columns.bind fun cs => cs.get? i with
    | some column => .ok column
    | none => .error (.columnOutOfBounds i p.fieldCount)

/-- The position of the column of that name. -/
def ordinal (p : ReaderParts σ) (name : String) : Except Error Nat :=
  if p.stage = .closed then .error .readerClosed
  else
    match p.columns.bind fun cs => cs.find? name with
    | some i => .ok i
    | none => .error (.columnNotFound name)

def label (p : ReaderParts σ) (i : Nat) : String :=
  match (p.column i).map Column.name with
  | .ok name => name
  | .error _ => String.ofList (Number.digits i)

/-! ## Values -/

/-- Whether a value of the current row is null, unless the flags do not reach that far. -/
def isNull? (p : ReaderParts σ) (i : Nat) : Option (Except Error Bool) :=
  match p.column i with
  | .error e => some (.error e)
  | .ok _ => if p.hasRow then p.nulls[i]?.map .ok else some (.error .noCurrentRow)

/-- A value of the current row, unless the buffers do not reach that far. -/
def value? (p : ReaderParts σ) (i : Nat) (c : Connection σ) : Option (Except Error Value × Connection σ) :=
  match p.column i with
  | .error e => some (.error e, c)
  | .ok column =>
    if p.hasRow then do
      if ← p.nulls[i]? then return (.ok .null, c)
      let datum ← p.values[i]?
      match p.session with
      | some _ => return Connection.readDatum datum column.oid c
      | none => return (.error .noCurrentRow, c)
    else some (.error .noCurrentRow, c)

/-- A value of the current row, read as a target. -/
def get? (p : ReaderParts σ) (target : Target) (i : Nat) (c : Connection σ) :
    Option (Except Error target.Carrier × Connection σ) := do
  match ← p.value? i c with
  | (.error e, c) => return (.error e, c)
  | (.ok v, c) =>
    match target.read v with
    | .ok a => return (.ok a, c)
    | .error cause => return (.error (.invalidCast (p.label i) target cause), c)

/-- The value of the column of that name in the current row, read as a target. -/
def getByName? (p : ReaderParts σ) (target : Target) (name : String) (c : Connection σ) :
    Option (Except Error target.Carrier × Connection σ) :=
  match p.ordinal name with
  | .error e => some (.error e, c)
  | .ok i => p.get? target i c

/-- Writes the values of the columns `i`, `i + 1`, …, of which there are `count` in all, over the values of a buffer,
up to the first one that fails. -/
def copyFrom? (p : ReaderParts σ) (count i : Nat) :
    List Value → Connection σ → Option (Except Error Unit × List Value × Connection σ)
  | [], c => some (.ok (), [], c)
  | old :: rest, c =>
    if i < count then do
      match ← p.value? i c with
      | (.error e, c) => return (.error e, old :: rest, c)
      | (.ok v, c) =>
        let (outcome, rest, c) ← copyFrom? p count (i + 1) rest c
        return (outcome, v :: rest, c)
    else some (.ok (), old :: rest, c)

/-- Writes the values of the current row over a buffer, and answers how many there are. -/
def values? (p : ReaderParts σ) (buffer : List Value) (c : Connection σ) :
    Option (Except Error Nat × List Value × Connection σ) := do
  let count := min buffer.length p.fieldCount
  let (outcome, buffer, c) ← p.copyFrom? count 0 buffer c
  return (outcome.map fun _ => count, buffer, c)

/-! ## Requests -/

def state (p : ReaderParts σ) : ReaderState where
  isClosed := p.stage = .closed
  hasRow := p.hasRow
  rowsFetched := p.rowsFetched
  recordsAffected := p.recordsAffected
  fieldCount := p.fieldCount
  columns := p.columns
  statement := p.statement.map fun s => (s.sql, s.oids)

/-- The answer to a request that leaves the reader as it is. -/
def tell? {α : Type} (p : ReaderParts σ) (f : α → ReaderReply) (told : Option (Except Error α × Connection σ)) :
    Option (ReaderReply × ReaderParts σ × Connection σ) :=
  told.map fun (a, c) => (.ofExcept f a, p, c)

/-- Carries out a request. -/
def answer? (p : ReaderParts σ) (c : Connection σ) :
    ReaderRequest → Option (ReaderReply × ReaderParts σ × Connection σ)
  | .read =>
    let (b, p, c) := p.read c
    some (.ofExcept .flag b, p, c)
  | .nextResult =>
    let (b, p, c) := p.read c
    some (.ofExcept .flag b, p, c)
  | .close =>
    let (p, c) := p.close c
    some (.done, p, c)
  | .state => some (.state p.state, p, c)
  | .ordinal name => some (.ofExcept .position (p.ordinal name), p, c)
  | .columnName i => some (.ofExcept .text ((p.column i).map Column.name), p, c)
  | .columnType i => some (.ofExcept .oid ((p.column i).map Column.oid), p, c)
  | .columnTypeName i => some (.ofExcept .text ((p.column i).map Column.typeName), p, c)
  | .isNull i => (p.isNull? i).map fun b => (.ofExcept .flag b, p, c)
  | .value i => p.tell? .value (p.value? i c)
  | .get target i => p.tell? (.converted target) (p.get? target i c)
  | .getByName target name => p.tell? (.converted target) (p.getByName? target name c)
  | .values n => do
    match ← p.values? (List.replicate n .null) c with
    | (.ok count, values, c) => return (.row count values, p, c)
    | (.error e, values, c) => return (.partRow e values, p, c)

def answerAll? (p : ReaderParts σ) (c : Connection σ) :
    List ReaderRequest → Option (List ReaderReply × ReaderParts σ × Connection σ)
  | [] => some ([], p, c)
  | request :: rest => do
    let (reply, p, c) ← p.answer? c request
    let (replies, p, c) ← answerAll? p c rest
    return (reply :: replies, p, c)

end ReaderParts

/-! ## Commands -/

namespace Command

variable {σ : Type} [Executor σ]

/-- Opens a cursor over a plan, for a reader that has the session. -/
def openParts (plan : Plan) (ps : Parameters) : Action σ (ReaderParts σ) := do
  let statement ← prepareStatement plan
  let places ← bindParameters plan ps
  let cursor ← Connection.onExecutor (Executor.openCursor statement.handle places)
  Step.update (Connection.logStatement fun level => .cursorOpened level plan.sql)
  return ReaderParts.ofCursor ⟨true⟩ statement cursor

/-- Executes the command, and answers a reader of its rows. -/
def executeParts (cmd : Command) (c : Connection σ) : Except Error (ReaderParts σ) × Command × Connection σ :=
  if cmd.isQuery then
    match cmd.prepare c with
    | (.error e, cmd, c) => (.error e, cmd, c)
    | (.ok plan, cmd, c) =>
      match Connection.opening (openParts plan cmd.parameters) c with
      | (p, c) => (p, cmd, c)
  else
    match cmd.executeNonQuery c with
    | (.error e, cmd, c) => (.error e, cmd, c)
    | (.ok n, cmd, c) => (.ok (ReaderParts.ofAffected n), cmd, c)

/-- Executes the command for a reader, asks that reader, and gives it up. -/
def readParts? (cmd : Command) (c : Connection σ) (requests : List ReaderRequest) :
    Option (CommandReply × Command × Connection σ) :=
  match cmd.executeParts c with
  | (.error e, cmd, c) => some (.error e, cmd, c)
  | (.ok p, cmd, c) => do
    let (replies, p, c) ← p.answerAll? c requests
    return (.reader replies, cmd, p.dispose c)

end Command

end InProcessSql
