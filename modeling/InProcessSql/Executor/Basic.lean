import InProcessSql.Column
import InProcessSql.Error
import InProcessSql.Parameter
import InProcessSql.Step

/-!
# Executors

An executor runs SQL in the same process. It first establishes a context, in which it prepares and
executes statements and opens cursors, and which it ends at last. Statements, cursors and datums belong to
the context.

`Executor` is the interface that commands and readers drive. `bindPlaces` hands parameter values over.
-/

namespace InProcessSql

/-- A place of a row or parameter list: a datum and whether the value is null. -/
structure Slot (δ : Type) where
  datum : δ
  isNull : Bool
  deriving DecidableEq, Repr, Inhabited

/-- What an executor makes of a datum: a value, or the text output of the value, which the text format
reads. -/
inductive DatumReading where
  | value (v : Except Error Value)
  | text (s : String)
  deriving Inhabited

/-- The value of a datum of the given type. -/
def DatumReading.result (oid : Oid) : DatumReading → Except Error Value
  | value v => v
  | text s => TextFormat.decode oid s

/-- An executor with states `σ`. -/
class Executor (σ : Type) where
  Statement : Type
  Cursor : Type
  Datum : Type
  /-- The datum that stands where there is no value. -/
  noDatum : Datum
  /-- Establishes a context, and answers whether there is one now. -/
  ready : σ → Bool × σ
  prepare : String → List Oid → Step σ Error Statement
  /-- Executes a text without parameters, and answers how many rows it affected. It must not write if the
  flag is set, and processes at most the given number of rows unless that is zero. -/
  execute : String → Bool → Int → Step σ Error Nat
  executePrepared : Statement → List (Slot Datum) → Bool → Int → Step σ Error Nat
  openCursor : Statement → List (Slot Datum) → Step σ Error Cursor
  fetch : Cursor → Step σ Error Unit
  /-- The number of rows and columns of the last fetch. -/
  dimensions : σ → (Nat × Nat) × σ
  columns : Nat → Step σ Error Columns
  /-- Writes the current row over the given places. -/
  currentRow : List (Slot Datum) → σ → List (Slot Datum) × σ
  /-- The row has as many places as it is written over. -/
  length_currentRow : ∀ (places : List (Slot Datum)) (s : σ),
    (currentRow places s).1.length = places.length
  finish : σ → σ
  /-- Reads the datum of a value that is not null. -/
  readDatum : Datum → Oid → σ → DatumReading × σ
  /-- Makes the datum of a value that is not null. -/
  writeDatum : Value → Oid → Step σ Error Datum

/-- The places of the executor. -/
abbrev Executor.Place (σ : Type) [Executor σ] : Type := Slot (Executor.Datum σ)

variable {σ : Type} [Executor σ]

/-- The place of a null. -/
def Executor.nullPlace : Executor.Place σ := ⟨Executor.noDatum, true⟩

/-- A place that nothing has been written to. -/
def Executor.blankPlace : Executor.Place σ := ⟨Executor.noDatum, false⟩

/-- The place of a value of the given type. The executor is not asked about null. -/
def bindPlace (v : Value) (oid : Oid) : Step σ Error (Executor.Place σ) :=
  if v.isNull then Step.ret Executor.nullPlace
  else do
    let datum ← Executor.writeDatum v oid
    return ⟨datum, false⟩

/-- The places of values of the given types, one after the other. -/
def bindPlaces : List (Value × Oid) → Step σ Error (List (Executor.Place σ))
  | [] => Step.ret []
  | (v, oid) :: rest => do
    let place ← bindPlace v oid
    let places ← bindPlaces rest
    return place :: places

/-- The values of parameters with the OIDs of their types. -/
def Parameters.bindings (ps : Parameters) (oids : List Oid) : List (Value × Oid) :=
  (ps.toList.map Parameter.value).zip oids

end InProcessSql
