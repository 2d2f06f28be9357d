import InProcessSql.Error
import InProcessSql.Text.Basic

/-!
# Options of a connection

A connection string is a list of `Key=Value` segments with semicolons between them. Blanks do not count
in keys, nor at the ends of values and segments, and keys are compared up to ASCII case. `Read Only` and
`Command Count` set an option; all other keys, which matter for connections over a network, are ignored.

`settings` reads the segments one after the other, and `Options.parse` applies what they set.
-/

namespace InProcessSql

open InProcessSql.Number InProcessSql.Text

/-- The importance of an event. -/
inductive Level where
  | error
  | warn
  | info
  | debug
  | trace
  deriving DecidableEq, Repr, Inhabited

/-- The options that commands of a connection run with. -/
structure Options where
  /-- Whether statements that return no rows must not write. -/
  readOnly : Bool := false
  /-- The greatest number of rows that such a statement processes; zero means all. -/
  countLimit : Int := 0
  /-- The level at which statements are logged, if they are. -/
  logLevel : Option Level := some .debug
  deriving DecidableEq, Repr, Inhabited

/-- What a segment of a connection string says. -/
inductive Setting where
  | readOnly (value : Bool)
  | countLimit (value : Int)
  | ignored (key : String)
  deriving DecidableEq, Repr

/-- The segments of a connection string, without blanks at their ends and without empty ones. -/
def segmentsOf (s : List Char) : List (List Char) :=
  ((s.splitOn ';').map trim).filter fun segment => !segment.isEmpty

/-- A key as it is compared. -/
def normalKey (key : List Char) : List Char := foldCase (key.filter fun c => !isBlank c)

/-- The truth values of connection strings. -/
def readSwitch? (value : List Char) : Option Bool :=
  let v := String.ofList (foldCase value)
  if v == "true" || v == "yes" || v == "on" || v == "1" then some true
  else if v == "false" || v == "no" || v == "off" || v == "0" then some false
  else none

/-- A count from zero on. -/
def readCount? (value : List Char) : Option Int :=
  match readInteger (Range.signed 64) value with
  | .ok n => if 0 ≤ n then some n else none
  | .error _ => none

/-- What a segment says. -/
def readSetting (segment : List Char) : Except OptionsError Setting :=
  match segment.dropWhile (· != '=') with
  | [] => .error (.missingValue (String.ofList segment))
  | _ :: rest =>
    let key := String.ofList (normalKey (segment.takeWhile (· != '=')))
    let value := trim rest
    if key == "readonly" then
      match readSwitch? value with
      | some b => .ok (.readOnly b)
      | none => .error (.invalidBoolean (String.ofList value))
    else if key == "commandcount" then
      match readCount? value with
      | some n => .ok (.countLimit n)
      | none => .error (.invalidCount (String.ofList value))
    else .ok (.ignored key)

/-- What the segments of a connection string say. -/
def settings (s : String) : Except OptionsError (List Setting) := (segmentsOf s.toList).mapM readSetting

/-- The options after a setting. -/
def Options.apply (options : Options) : Setting → Options
  | .readOnly value => { options with readOnly := value }
  | .countLimit value => { options with countLimit := value }
  | .ignored _ => options

def Setting.ignoredKey? : Setting → Option String
  | .ignored key => some key
  | _ => none

/-- The options of a connection string. -/
def Options.parse (s : String) : Except Error Options :=
  match settings s with
  | .ok settings => .ok (settings.foldl Options.apply {})
  | .error e => .error (.invalidConnectionString e)

/-- The keys of a connection string that have no effect; none if the string is malformed. -/
def ignoredKeys (s : String) : List String :=
  match settings s with
  | .ok settings => settings.filterMap Setting.ignoredKey?
  | .error _ => []

end InProcessSql
