import InProcessSql.Executor.Scripted

/-!
# Requests to an executor

An `ExecutorRequest` asks an executor for one operation, without a connection in between, and
`Executor.answer` carries it out. A `ScriptedRequest` may also tell a scripted executor what to answer
later, and `Scripted.answerAll` carries out one request after the other.
-/

namespace InProcessSql

/-- A request to an executor. -/
inductive ExecutorRequest (σ : Type) [Executor σ] where
  | ready
  | prepare (sql : String) (oids : List Oid)
  | execute (sql : String) (readOnly : Bool) (countLimit : Int)
  | executePrepared (statement : Executor.Statement σ) (places : List (Executor.Place σ)) (readOnly : Bool)
      (countLimit : Int)
  | openCursor (statement : Executor.Statement σ) (places : List (Executor.Place σ))
  | fetch (cursor : Executor.Cursor σ)
  | dimensions
  | columns (count : Nat)
  | currentRow (places : List (Executor.Place σ))
  | finish
  | readDatum (datum : Executor.Datum σ) (oid : Oid)
  | writeDatum (v : Value) (oid : Oid)

/-- The answer to a request to an executor. -/
inductive ExecutorReply (σ : Type) [Executor σ] where
  | error (e : Error)
  | done
  | flag (b : Bool)
  | statement (statement : Executor.Statement σ)
  | affected (n : Nat)
  | cursor (cursor : Executor.Cursor σ)
  | size (rows columns : Nat)
  | columns (cs : Columns)
  | row (places : List (Executor.Place σ))
  | value (v : Value)
  | datum (datum : Executor.Datum σ)

namespace Executor

variable {σ : Type} [Executor σ]

/-- The answer made of the result of a step. -/
def replyOf {α : Type} (f : α → ExecutorReply σ) (step : Step σ Error α) (s : σ) : ExecutorReply σ × σ :=
  match step s with
  | (.ok a, s) => (f a, s)
  | (.error e, s) => (.error e, s)

def answer (s : σ) : ExecutorRequest σ → ExecutorReply σ × σ
  | .ready =>
    let (b, s) := Executor.ready s
    (.flag b, s)
  | .prepare sql oids => replyOf .statement (Executor.prepare sql oids) s
  | .execute sql readOnly countLimit => replyOf .affected (Executor.execute sql readOnly countLimit) s
  | .executePrepared statement places readOnly countLimit =>
    replyOf .affected (Executor.executePrepared statement places readOnly countLimit) s
  | .openCursor statement places => replyOf .cursor (Executor.openCursor statement places) s
  | .fetch cursor => replyOf (fun _ => .done) (Executor.fetch cursor) s
  | .dimensions =>
    let ((rows, columns), s) := Executor.dimensions s
    (.size rows columns, s)
  | .columns count => replyOf .columns (Executor.columns count) s
  | .currentRow places =>
    let (places, s) := Executor.currentRow places s
    (.row places, s)
  | .finish => (.done, Executor.finish s)
  | .readDatum datum oid =>
    let (reading, s) := Executor.readDatum datum oid s
    match reading.result oid with
    | .ok v => (.value v, s)
    | .error e => (.error e, s)
  | .writeDatum v oid => replyOf .datum (Executor.writeDatum v oid) s

end Executor

/-- A request to a scripted executor. -/
inductive ScriptedRequest where
  | instruct (instruction : Scripted.Instruction)
  | clearCalls
  | call (request : ExecutorRequest Scripted)

namespace Scripted

def answer (s : Scripted) : ScriptedRequest → ExecutorReply Scripted × Scripted
  | .instruct instruction => (.done, s.follow instruction)
  | .clearCalls => (.done, s.clearCalls)
  | .call request => Executor.answer s request

def answerAll (s : Scripted) : List ScriptedRequest → List (ExecutorReply Scripted) × Scripted
  | [] => ([], s)
  | request :: rest =>
    let (reply, s) := s.answer request
    let (replies, s) := answerAll s rest
    (reply :: replies, s)

end Scripted

end InProcessSql
