import InProcessSql.Executor.Basic
import InProcessSql.Executor.ByValue
import InProcessSql.Text.Utf8
import InProcessSql.TextFormat.Writing

/-!
# The native executor

The native executor is reached through a fixed set of entry points, the `NativeLayer`, which exchange
words, result codes and zero-terminated texts. A result code below zero says what went wrong, and any other that the
operation has succeeded; for operations that affect rows it is their number. `Native` makes an `Executor` of any such
layer: it turns result codes into errors, words that are values into values, and everything else into texts of the text
format.
-/

namespace InProcessSql

open InProcessSql.Number InProcessSql.Text

/-! ## Result codes -/

namespace ResultCode

/-- The name of a result code. -/
def name (code : Int32) : String :=
  if 0 ≤ code.toInt then "SPI_OK"
  else
    match code.toInt with
    | -1 => "SPI_ERROR_CONNECT"
    | -2 => "SPI_ERROR_COPY"
    | -3 => "SPI_ERROR_OPUNKNOWN"
    | -4 => "SPI_ERROR_UNCONNECTED"
    | -5 => "SPI_ERROR_CURSOR"
    | -6 => "SPI_ERROR_ARGUMENT"
    | -7 => "SPI_ERROR_PARAM"
    | -8 => "SPI_ERROR_TRANSACTION"
    | -9 => "SPI_ERROR_NOATTRIBUTE"
    | -10 => "SPI_ERROR_NOOUTFUNC"
    | -11 => "SPI_ERROR_TYPUNKNOWN"
    | -12 => "SPI_ERROR_REL_DUPLICATE"
    | -13 => "SPI_ERROR_REL_NOT_FOUND"
    | _ => "SPI_ERROR"

/-- The code of an operation that has succeeded, or its error. -/
def check (code : Int32) (operation : String) : Except Error Int32 :=
  if code.toInt < 0 then .error (.executor code (operation ++ " failed: " ++ name code)) else .ok code

/-- The number of rows that an operation has affected, or its error. -/
def affected (code : Int32) (operation : String) : Except Error Nat :=
  (check code operation).map fun code => code.toInt.toNat

end ResultCode

/-! ## Columns -/

/-- A column as the native layer describes it: the OID of its type as a signed number, and its name in
bytes, if it has one. -/
structure NativeColumn where
  oid : Int32
  name : Option (List UInt8)
  deriving DecidableEq, Repr, Inhabited

/-- What a column is described as before the layer has described it. -/
def NativeColumn.blank : NativeColumn := ⟨0, none⟩

/-- The column. Its name ends at the first zero byte. -/
def NativeColumn.column (c : NativeColumn) : Column :=
  ⟨(c.name.map ofNative).getD "", c.oid.toUInt32⟩

/-- The entry points of a native executor whose state is `σ`. -/
class NativeLayer (σ : Type) where
  Plan : Type
  Portal : Type
  ready : σ → Bool × σ
  /-- Prepares a text; answers a result code and perhaps a plan. -/
  prepare : String → List Oid → σ → (Int32 × Option Plan) × σ
  execute : String → Bool → Int → σ → Int32 × σ
  /-- Executes a plan with the given words and null flags; answers a result code. -/
  executePlan : Plan → List Word → String → Bool → Int → σ → Int32 × σ
  /-- Opens a portal with the given words and null flags; answers a result code and perhaps a portal. -/
  openCursor : Plan → List Word → String → σ → (Int32 × Option Portal) × σ
  fetch : Portal → σ → σ
  dimensions : σ → (Int32 × Int32) × σ
  /-- Describes the columns of the last fetch, or the first ones of them. -/
  columns : σ → List NativeColumn × σ
  /-- The words and null flags of the last fetch, or the first ones of them. -/
  table : σ → List (Slot Word) × σ
  finish : σ → σ
  /-- The text of a word of the given type, if there is one. -/
  textOfWord : Word → Oid → σ → Option (List UInt8) × σ
  wordOfText : String → Oid → σ → Word × σ

/-- An executor over a native layer in state `σ`. -/
structure Native (σ : Type) where
  layer : σ
  deriving Repr, Inhabited

namespace Native

variable {σ : Type}

/-! ## What the layer is handed -/

/-- The position of the first zero byte of a text. -/
def nulPosition? (s : String) : Option Nat :=
  let before := s.toList.takeWhile (· != '\x00')
  if before.length < s.toList.length then some (Calendar.byteCount before) else none

/-- The null flags of places: `n` for null and a blank for anything else. -/
def nullFlags (places : List (Slot Word)) : String :=
  String.ofList (places.map fun p => if p.isNull then 'n' else ' ')

/-- The greatest number of parameters of a statement. -/
def maxParameters : Nat := Nat.pow 2 31 - 1

/-- Hands a text over, unless it holds a zero byte. -/
def withText {α : Type} (s : String) (f : String → Step σ Error α) : Step σ Error α :=
  match nulPosition? s with
  | some position => Step.fail (.interiorNul position)
  | none => f s

/-- Works on the layer. -/
def onLayer {α : Type} (f : σ → α × σ) (s : Native σ) : α × Native σ :=
  let r := f s.layer
  (r.1, ⟨r.2⟩)

/-! ## What the layer answers -/

/-- A pointer, or the error of a result code, or another error if there is no pointer. -/
def pointer {α : Type} (operation : String) (missing : Int32 → Error) (answer : Int32 × Option α) :
    Except Error α :=
  match ResultCode.check answer.1 operation with
  | .error e => .error e
  | .ok code =>
    match answer.2 with
    | some p => .ok p
    | none => .error (missing code)

/-- The first `count` columns; those that are not described are blank. -/
def describedColumns (count : Nat) (cs : List NativeColumn) : Columns :=
  let described := cs.take count
  ⟨(described ++ List.replicate (count - described.length) NativeColumn.blank).map NativeColumn.column⟩

/-- The places after a row has been written over them. Where nothing is written the word becomes zero and
the null flag stays. -/
def overwrite : List (Slot Word) → List (Slot Word) → List (Slot Word)
  | new :: row, _ :: places => new :: overwrite row places
  | [], places => places.map fun p => ⟨0, p.isNull⟩
  | _, [] => []

/-- A row is as long as the places that it is written over. -/
theorem length_overwrite (row places : List (Slot Word)) :
    (overwrite row places).length = places.length := by
  fun_induction overwrite row places <;> simp_all

/-! ## The operations -/

variable [NativeLayer σ]

def prepare (sql : String) (oids : List Oid) : Step σ Error (NativeLayer.Plan σ) :=
  withText sql fun sql =>
    -- The layer counts parameters in 32 bits.
    if maxParameters < oids.length then Step.fail (.executor (-7) "too many parameters")
    else fun s =>
      let (answer, s) := NativeLayer.prepare sql oids s
      (pointer "prepare" (fun code => .executor code "prepare returned no plan") answer, s)

def execute (sql : String) (readOnly : Bool) (countLimit : Int) : Step σ Error Nat :=
  withText sql fun sql s =>
    let (code, s) := NativeLayer.execute sql readOnly countLimit s
    (ResultCode.affected code "execute", s)

def executePlan (plan : NativeLayer.Plan σ) (places : List (Slot Word)) (readOnly : Bool)
    (countLimit : Int) : Step σ Error Nat := fun s =>
  let (code, s) :=
    NativeLayer.executePlan plan (places.map Slot.datum) (nullFlags places) readOnly countLimit s
  (ResultCode.affected code "execute plan", s)

def openCursor (plan : NativeLayer.Plan σ) (places : List (Slot Word)) :
    Step σ Error (NativeLayer.Portal σ) := fun s =>
  let (answer, s) := NativeLayer.openCursor plan (places.map Slot.datum) (nullFlags places) s
  (pointer "cursor open" (fun _ => .executor (-5) "cursor open returned no portal") answer, s)

/-- The numbers of rows and columns of the last fetch; numbers below zero count as zero. -/
def dimensions (s : σ) : (Nat × Nat) × σ :=
  let ((rows, columns), s) := NativeLayer.dimensions s
  ((rows.toInt.toNat, columns.toInt.toNat), s)

def columns (count : Nat) (s : σ) : Columns × σ :=
  let (cs, s) := NativeLayer.columns s
  (describedColumns count cs, s)

def currentRow (places : List (Slot Word)) (s : σ) : List (Slot Word) × σ :=
  let (row, s) := NativeLayer.table s
  (overwrite row places, s)

/-- Reads a word: the value that it is, or the text that the layer has for it. -/
def readDatum (word : Word) (oid : Oid) (s : σ) : DatumReading × σ :=
  match ByValue.decode? word oid with
  | some value => (.value value, s)
  | none =>
    match NativeLayer.textOfWord word oid s with
    | (some bytes, s) => (.text (ofNative bytes), s)
    | (none, s) => (.value (.error (.decode oid .noText)), s)

/-- Makes a word of a value: the value itself, or what the layer makes of its text. -/
def writeDatum (v : Value) (oid : Oid) : Step σ Error Word :=
  match ByValue.encode? v oid with
  | some word => Step.ofExcept word
  | none => withText (TextFormat.write v) fun text => Step.total (NativeLayer.wordOfText text oid)

instance : Executor (Native σ) where
  Statement := NativeLayer.Plan σ
  Cursor := NativeLayer.Portal σ
  Datum := Word
  noDatum := 0
  ready := onLayer NativeLayer.ready
  prepare sql oids := onLayer (prepare sql oids)
  execute sql readOnly countLimit := onLayer (execute sql readOnly countLimit)
  executePrepared plan places readOnly countLimit := onLayer (executePlan plan places readOnly countLimit)
  openCursor plan places := onLayer (openCursor plan places)
  fetch portal := onLayer (Step.update (NativeLayer.fetch portal))
  dimensions := onLayer dimensions
  columns count := onLayer (Step.total (columns count))
  currentRow places := onLayer (currentRow places)
  length_currentRow _ _ := length_overwrite _ _
  finish s := ⟨NativeLayer.finish s.layer⟩
  readDatum word oid := onLayer (readDatum word oid)
  writeDatum v oid := onLayer (writeDatum v oid)

end Native

end InProcessSql
