import InProcessSql.Parameter
import InProcessSql.Reader
import InProcessSql.Text.Basic

/-!
# Commands

A command has a text and parameters. `prepare` makes its plan, which is kept until the text or the
parameters change, and puts the numbered placeholders into the text. A text that starts with `select` is a
query and runs through a cursor; any other text runs to completion.

An execution first plans, then works in a context of the executor. Errors of planning come before any call
of the executor.
-/

namespace InProcessSql

open InProcessSql.Text

/-- A command. -/
structure Command where
  text : String
  parameters : Parameters := {}
  /-- The plan, while it is valid. -/
  plan : Option Plan := none
  deriving Repr, Inhabited

/-- The word that queries start with. -/
def queryWord : List Char := "select".toList

/-- Whether a text is that of a query: after blanks, it starts with `select` in any letter case. -/
def isQueryText (text : List Char) : Bool :=
  queryWord.isPrefixOf (foldCase (trimStart text))

namespace Command

/-! ## Text and parameters -/

/-- Asks that a text has other characters than blanks. -/
def checkText (text : String) : Except Error Unit :=
  if isAllBlank text.toList then .error .emptyCommand else .ok ()

/-- The command of a text. -/
def create (text : String) : Except Error Command := (checkText text).map fun _ => { text }

def setText (cmd : Command) (text : String) : Except Error Command :=
  (checkText text).map fun _ => { cmd with text, plan := none }

def isQuery (cmd : Command) : Bool := isQueryText cmd.text.toList

/-- The command with other parameters. -/
def setParameters (cmd : Command) (parameters : Parameters) : Command :=
  { cmd with parameters, plan := none }

/-- The command with one more parameter, which has a name. -/
def withParameter (cmd : Command) (name : String) (value : Value) : Command :=
  cmd.setParameters (cmd.parameters.add (.named name value))

/-- The command with one more parameter, which has no name. -/
def withValue (cmd : Command) (value : Value) : Command :=
  cmd.setParameters (cmd.parameters.add (.positional value))

/-! ## Execution -/

variable {σ : Type}

/-- Makes the plan of the command, unless there is one. -/
def prepare (cmd : Command) (c : Connection σ) : Except Error Plan × Command × Connection σ :=
  match cmd.plan with
  | some plan => (.ok plan, cmd, c)
  | none =>
    match Plan.of cmd.text cmd.parameters with
    | .error e => (.error e, cmd, c)
    | .ok plan =>
      (.ok plan, { cmd with text := plan.sql, plan := some plan },
       c.emit (.planned plan.sql plan.oids.length))

variable [Executor σ]

/-- Has the executor prepare the statement of a plan. -/
def prepareStatement (plan : Plan) : Action σ (Prepared σ) := do
  let handle ← Connection.onExecutor (Executor.prepare plan.sql plan.oids)
  Step.update (Connection.emit (.prepared plan.sql plan.oids.length))
  return ⟨handle, plan.sql, plan.oids⟩

/-- Hands the values of parameters over. -/
def bindParameters (plan : Plan) (ps : Parameters) : Action σ (List (Executor.Place σ)) :=
  Connection.onExecutor (bindPlaces (ps.bindings plan.oids))

/-- Opens a cursor over a plan. -/
def openCursor (plan : Plan) (ps : Parameters) : Action σ (Reader σ) := do
  let statement ← prepareStatement plan
  let places ← bindParameters plan ps
  let cursor ← Connection.onExecutor (Executor.openCursor statement.handle places)
  Step.update (Connection.logStatement fun level => .cursorOpened level plan.sql)
  return Reader.ofCursor statement cursor

/-- Runs a plan to completion. Without parameters the text is executed as it is. -/
def run (plan : Plan) (ps : Parameters) (options : Options) : Action σ Nat :=
  if plan.oids.isEmpty then
    Connection.onExecutor (Executor.execute plan.sql options.readOnly options.countLimit)
  else do
    let statement ← prepareStatement plan
    let places ← bindParameters plan ps
    Connection.onExecutor
      (Executor.executePrepared statement.handle places options.readOnly options.countLimit)

/-- Executes the command to completion, and answers how many rows it affected. -/
def executeNonQuery (cmd : Command) (c : Connection σ) : Except Error Nat × Command × Connection σ :=
  match cmd.prepare c with
  | (.error e, cmd, c) => (.error e, cmd, c)
  | (.ok plan, cmd, c) =>
    match Connection.within (run plan cmd.parameters c.options) c with
    | (.error e, c) => (.error e, cmd, c)
    | (.ok n, c) => (.ok n, cmd, c.logStatement fun level => .executed level plan.sql n)

/-- Executes the command, and answers a reader of its rows. A command that is no query is executed to
completion, and its reader has no rows. -/
def executeReader (cmd : Command) (c : Connection σ) :
    Except Error (Reader σ) × Command × Connection σ :=
  if cmd.isQuery then
    match cmd.prepare c with
    | (.error e, cmd, c) => (.error e, cmd, c)
    | (.ok plan, cmd, c) =>
      match Connection.opening (openCursor plan cmd.parameters) c with
      | (r, c) => (r, cmd, c)
  else
    match cmd.executeNonQuery c with
    | (.error e, cmd, c) => (.error e, cmd, c)
    | (.ok n, cmd, c) => (.ok (Reader.ofAffected n), cmd, c)

/-- The first value of the first row of a reader, which is then closed. -/
def firstValue (r : Reader σ) (c : Connection σ) : Except Error Value × Connection σ :=
  match r.read c with
  | (.error e, r, c) => (.error e, r.dispose c)
  -- The reader of a command without rows is exhausted from the start.
  | (.ok false, r, c) => (.ok .null, (r.close c).2)
  | (.ok true, r, c) =>
    match r.value 0 c with
    | (.error e, c) => (.error e, r.dispose c)
    | (.ok v, c) => (.ok v, (r.close c).2)

/-- Executes the command, and answers the first value of its first row, or null if there is none. -/
def executeScalar (cmd : Command) (c : Connection σ) : Except Error Value × Command × Connection σ :=
  match cmd.executeReader c with
  | (.error e, cmd, c) => (.error e, cmd, c)
  | (.ok r, cmd, c) =>
    match firstValue r c with
    | (v, c) => (v, cmd, c)

end Command

end InProcessSql
