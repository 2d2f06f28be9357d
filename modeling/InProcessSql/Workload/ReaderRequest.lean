import InProcessSql.Reader

/-!
# Requests to a reader

A `ReaderRequest` asks a reader to move, or for a column or value, and `Reader.answer` carries it out.
`Reader.answerAll` carries out one request after the other.
-/

namespace InProcessSql

/-- A request to a reader. -/
inductive ReaderRequest where
  | read
  /-- Move to the next result, of which there is one only, so that this moves to the next row. -/
  | nextResult
  | close
  | state
  | ordinal (name : String)
  | columnName (i : Nat)
  | columnType (i : Nat)
  | columnTypeName (i : Nat)
  | isNull (i : Nat)
  | value (i : Nat)
  | get (target : Target) (i : Nat)
  | getByName (target : Target) (name : String)
  /-- Copy the row into a buffer of so many nulls. -/
  | values (n : Nat)
  deriving Repr, Inhabited

/-- How far a reader has come, as it tells. -/
structure ReaderState where
  isClosed : Bool
  hasRow : Bool
  rowsFetched : Nat
  recordsAffected : Int
  fieldCount : Nat
  columns : Option Columns
  /-- The text and the OIDs of the statement, while the reader is active. -/
  statement : Option (String × List Oid)
  deriving DecidableEq, Repr, Inhabited

/-- The answer to a request to a reader. -/
inductive ReaderReply where
  | error (e : Error)
  | done
  | flag (b : Bool)
  | state (s : ReaderState)
  | position (i : Nat)
  | text (s : String)
  | oid (oid : Oid)
  | value (v : Value)
  | converted (target : Target) (a : target.Carrier)
  /-- The number of values copied, and the buffer. -/
  | row (count : Nat) (values : List Value)
  /-- Why copying stopped, and the buffer. -/
  | partRow (e : Error) (values : List Value)

/-- The answer made of a result. -/
def ReaderReply.ofExcept {α : Type} (f : α → ReaderReply) : Except Error α → ReaderReply
  | .ok a => f a
  | .error e => .error e

namespace Reader

variable {σ : Type} [Executor σ]

def state (r : Reader σ) : ReaderState where
  isClosed := r.isClosed
  hasRow := r.hasRow
  rowsFetched := r.rowsFetched
  recordsAffected := r.recordsAffected
  fieldCount := r.fieldCount
  columns := r.columns
  statement := r.statement?.map fun s => (s.sql, s.oids)

/-- The answer to a request that leaves the reader as it is. -/
def tell {α : Type} (r : Reader σ) (f : α → ReaderReply) (x : Action σ α) (c : Connection σ) :
    ReaderReply × Reader σ × Connection σ :=
  let (a, c) := x c
  (.ofExcept f a, r, c)

def answer (r : Reader σ) (c : Connection σ) : ReaderRequest → ReaderReply × Reader σ × Connection σ
  | .read =>
    let (b, r, c) := r.read c
    (.ofExcept .flag b, r, c)
  | .nextResult =>
    let (b, r, c) := r.read c
    (.ofExcept .flag b, r, c)
  | .close =>
    let (r, c) := r.close c
    (.done, r, c)
  | .state => (.state r.state, r, c)
  | .ordinal name => (.ofExcept .position (r.ordinal name), r, c)
  | .columnName i => (.ofExcept .text (r.columnName i), r, c)
  | .columnType i => (.ofExcept .oid (r.columnType i), r, c)
  | .columnTypeName i => (.ofExcept .text (r.columnTypeName i), r, c)
  | .isNull i => (.ofExcept .flag (r.isNull i), r, c)
  | .value i => r.tell .value (r.value i) c
  | .get target i => r.tell (.converted target) (r.get target i) c
  | .getByName target name => r.tell (.converted target) (r.getByName target name) c
  | .values n =>
    let (count, values, c) := r.values (List.replicate n .null) c
    match count with
    | .ok count => (.row count values, r, c)
    | .error e => (.partRow e values, r, c)

def answerAll (r : Reader σ) (c : Connection σ) :
    List ReaderRequest → List ReaderReply × Reader σ × Connection σ
  | [] => ([], r, c)
  | request :: rest =>
    let (reply, r, c) := r.answer c request
    let (replies, r, c) := answerAll r c rest
    (reply :: replies, r, c)

end Reader

end InProcessSql
