import InProcessSql.Command
import InProcessSql.Workload.ParameterRequest
import InProcessSql.Workload.ReaderRequest

/-!
# Requests to a command

A `CommandRequest` asks for a change of a command or for an execution, and `Command.answer` carries it
out. A reader is given up after the requests that it was asked for. `Command.answerAll` carries out one
request after the other.
-/

namespace InProcessSql

/-- A request to a command. -/
inductive CommandRequest where
  | text
  | setText (text : String)
  | isQuery
  | withParameter (name : String) (value : Value)
  | withValue (value : Value)
  | parameters
  | edit (request : ParametersRequest)
  | prepare
  | nonQuery
  | scalar
  | reader (requests : List ReaderRequest)
  deriving Repr, Inhabited

/-- The answer to a request to a command. -/
inductive CommandReply where
  | error (e : Error)
  | done
  | text (s : String)
  | flag (b : Bool)
  | parameters (ps : Parameters)
  | edited (reply : ParametersReply)
  | plan (p : Plan)
  | affected (n : Nat)
  | value (v : Value)
  | reader (replies : List ReaderReply)

/-- The answer made of a result. -/
def CommandReply.ofExcept {α : Type} (f : α → CommandReply) : Except Error α → CommandReply
  | .ok a => f a
  | .error e => .error e

/-- The event of an answer about parameters: plans are logged. -/
def ParametersReply.log {σ : Type} (c : Connection σ) : ParametersReply → Connection σ
  | .plan p => c.emit (.planned p.sql p.oids.length)
  | _ => c

namespace Command

variable {σ : Type} [Executor σ]

def answer (cmd : Command) (c : Connection σ) : CommandRequest → CommandReply × Command × Connection σ
  | .text => (.text cmd.text, cmd, c)
  | .setText text =>
    match cmd.setText text with
    | .ok cmd => (.done, cmd, c)
    | .error e => (.error e, cmd, c)
  | .isQuery => (.flag cmd.isQuery, cmd, c)
  | .withParameter name value => (.done, cmd.withParameter name value, c)
  | .withValue value => (.done, cmd.withValue value, c)
  | .parameters => (.parameters cmd.parameters, cmd, c)
  | .edit request =>
    let (reply, ps) := cmd.parameters.answer request
    (.edited reply, cmd.setParameters ps, reply.log c)
  | .prepare =>
    let (plan, cmd, c) := cmd.prepare c
    (.ofExcept .plan plan, cmd, c)
  | .nonQuery =>
    let (n, cmd, c) := cmd.executeNonQuery c
    (.ofExcept .affected n, cmd, c)
  | .scalar =>
    let (v, cmd, c) := cmd.executeScalar c
    (.ofExcept .value v, cmd, c)
  | .reader requests =>
    match cmd.executeReader c with
    | (.error e, cmd, c) => (.error e, cmd, c)
    | (.ok r, cmd, c) =>
      let (replies, r, c) := r.answerAll c requests
      (.reader replies, cmd, r.dispose c)

def answerAll (cmd : Command) (c : Connection σ) :
    List CommandRequest → List CommandReply × Command × Connection σ
  | [] => ([], cmd, c)
  | request :: rest =>
    let (reply, cmd, c) := cmd.answer c request
    let (replies, cmd, c) := answerAll cmd c rest
    (reply :: replies, cmd, c)

end Command

end InProcessSql
