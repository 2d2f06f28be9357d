import InProcessSql.Event
import InProcessSql.Executor.Basic

/-!
# Connections

A connection is an executor with the options that its commands run with and the log of what happened. The
work of a command takes place in a context of the executor, which is established by `acquire` and ended by
`release`. `within` runs a step in a context of its own and ends the context whatever the step answers;
`opening` keeps it if the step succeeds.
-/

namespace InProcessSql

/-- A connection to an executor with states `σ`. -/
structure Connection (σ : Type) where
  executor : σ
  options : Options := {}
  isOpen : Bool := false
  log : List Event := []
  deriving Repr, Inhabited

/-- A step on a connection. -/
abbrev Action (σ α : Type) : Type := Step (Connection σ) Error α

namespace Connection

variable {σ α : Type}

/-- A connection that is not open. -/
def new (executor : σ) (options : Options) : Connection σ := { executor, options }

def emit (event : Event) (c : Connection σ) : Connection σ := { c with log := c.log ++ [event] }

/-- Logs what a statement has done, if statements are logged. -/
def logStatement (event : Level → Event) (c : Connection σ) : Connection σ :=
  match c.options.logLevel with
  | some level => c.emit (event level)
  | none => c

/-- Works on the executor of the connection. -/
def onExecutor (f : σ → α × σ) (c : Connection σ) : α × Connection σ :=
  let r := f c.executor
  (r.1, { c with executor := r.2 })

/-- The connection marked as closed. Contexts belong to commands and readers, so that there is nothing to
release. -/
def close (c : Connection σ) : Connection σ := { c with isOpen := false }

def clearLog (c : Connection σ) : Connection σ := { c with log := [] }

@[simp] theorem executor_emit (e : Event) (c : Connection σ) : (c.emit e).executor = c.executor := rfl

@[simp] theorem options_emit (e : Event) (c : Connection σ) : (c.emit e).options = c.options := rfl

@[simp] theorem log_emit (e : Event) (c : Connection σ) : (c.emit e).log = c.log ++ [e] := rfl

@[simp] theorem executor_logStatement (event : Level → Event) (c : Connection σ) :
    (c.logStatement event).executor = c.executor := by
  unfold logStatement
  split <;> rfl

@[simp] theorem options_logStatement (event : Level → Event) (c : Connection σ) :
    (c.logStatement event).options = c.options := by
  unfold logStatement
  split <;> rfl

/-! ## Contexts of the executor -/

variable [Executor σ]

/-- Asks the executor whether it accepts statements. -/
def checkReady : Action σ Unit := fun c =>
  let r := c.onExecutor Executor.ready
  (if r.1 then .ok () else .error .notReady, r.2)

/-- Opens the connection. -/
def connect : Action σ Unit := do
  checkReady
  Step.update fun c => { c with isOpen := true }.emit .connectionOpened

/-- Establishes a context. -/
def acquire : Action σ Unit := checkReady

/-- Ends the context. -/
def release (c : Connection σ) : Connection σ :=
  { c with executor := Executor.finish c.executor }.emit .released

/-- Runs a step in a context, which is kept if the step succeeds. -/
def opening (step : Action σ α) : Action σ α := fun c =>
  match acquire c with
  | (.error e, c) => (.error e, c)
  | (.ok (), c) =>
    match step c with
    | (.ok a, c) => (.ok a, c)
    | (.error e, c) => (.error e, c.release)

/-- Runs a step in a context of its own. -/
def within (step : Action σ α) : Action σ α := fun c =>
  match opening step c with
  | (.ok a, c) => (.ok a, c.release)
  | (.error e, c) => (.error e, c)

/-- Reads the datum of a value that is not null. -/
def readDatum (datum : Executor.Datum σ) (oid : Oid) : Action σ Value := fun c =>
  -- Only values that come as text are logged.
  match c.onExecutor (Executor.readDatum datum oid) with
  | (.value v, c) => (v, c)
  | (.text s, c) => (TextFormat.decode oid s, c.emit (.textDecoded oid s))

end Connection

/-! ## Data sources -/

/-- The options of connections yet to be made, with the events of finding them. -/
structure DataSource where
  options : Options := {}
  log : List Event := []
  deriving Repr, Inhabited

namespace DataSource

/-- The data source of a connection string. -/
def ofString (s : String) : Except Error DataSource :=
  (Options.parse s).map fun options => { options, log := (ignoredKeys s).map .keyIgnored }

/-- A connection that is not open. -/
def connection {σ : Type} (source : DataSource) (executor : σ) : Connection σ :=
  { executor, options := source.options, log := source.log }

/-- A connection that has been opened. -/
def openConnection {σ : Type} [Executor σ] (source : DataSource) (executor : σ) :
    Except Error (Connection σ) :=
  match Connection.connect (source.connection executor) with
  | (.ok (), c) => .ok c
  | (.error e, _) => .error e

end DataSource

end InProcessSql
