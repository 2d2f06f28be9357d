import InProcessSql.Workload.CommandRequest

/-!
# Requests to a connection

A `ConnectionRequest` opens or closes a connection, instructs its executor, or runs a command, and
`Connection.answer` carries it out. What instructions there are, and how they are followed, is up to the
executor. `Connection.answerAll` carries out one request after the other.
-/

namespace InProcessSql

/-- A request to a connection whose executor follows instructions `ι`. -/
inductive ConnectionRequest (ι : Type) where
  | connect
  | close
  | isOpen
  | options
  | instruct (instruction : ι)
  | command (text : String) (requests : List CommandRequest)
  deriving Repr, Inhabited

/-- The answer to a request to a connection. -/
inductive ConnectionReply where
  | error (e : Error)
  | done
  | flag (b : Bool)
  | options (o : Options)
  | command (replies : List CommandReply)

namespace Connection

variable {σ ι : Type} [Executor σ] (follow : ι → σ → σ)

def answer (c : Connection σ) : ConnectionRequest ι → ConnectionReply × Connection σ
  | .connect =>
    match Connection.connect c with
    | (.ok (), c) => (.done, c)
    | (.error e, c) => (.error e, c)
  | .close => (.done, c.close)
  | .isOpen => (.flag c.isOpen, c)
  | .options => (.options c.options, c)
  | .instruct instruction => (.done, { c with executor := follow instruction c.executor })
  | .command text requests =>
    match Command.create text with
    | .error e => (.error e, c)
    | .ok cmd =>
      let (replies, _, c) := cmd.answerAll c requests
      (.command replies, c)

def answerAll (c : Connection σ) : List (ConnectionRequest ι) → List ConnectionReply × Connection σ
  | [] => ([], c)
  | request :: rest =>
    let (reply, c) := answer follow c request
    let (replies, c) := answerAll c rest
    (reply :: replies, c)

end Connection

end InProcessSql
