import InProcessSql.Options

/-!
# Events

What a connection logs. Each event has a level, a message and named fields.
-/

namespace InProcessSql

/-- An event of a connection. -/
inductive Event where
  | keyIgnored (key : String)
  | connectionOpened
  | planned (sql : String) (parameters : Nat)
  | prepared (sql : String) (parameters : Nat)
  | cursorOpened (level : Level) (sql : String)
  | executed (level : Level) (sql : String) (rows : Nat)
  | fetched (rows columns : Nat)
  | exhausted (rows : Nat)
  /-- A reader could not get its next row and has been closed. -/
  | fetchFailed (error : Error)
  | abandoned (rows : Nat)
  | released
  /-- A datum is decoded by way of its text. -/
  | textDecoded (oid : Oid) (text : String)
  deriving Repr, Inhabited

/-- The content of a field of an event. -/
inductive FieldContent where
  | text (s : String)
  | number (n : Nat)
  deriving DecidableEq, Repr, Inhabited

namespace Event

def level : Event → Level
  | keyIgnored _ => .trace
  | connectionOpened => .debug
  | planned _ _ => .trace
  | prepared _ _ => .debug
  | cursorOpened level _ => level
  | executed level _ _ => level
  | fetched _ _ => .trace
  | exhausted _ => .trace
  | fetchFailed _ => .debug
  | abandoned _ => .debug
  | released => .debug
  | textDecoded _ _ => .trace

def message : Event → String
  | keyIgnored _ => "ignoring connection string key"
  | connectionOpened => "connection opened"
  | planned _ _ => "planned parameter binding"
  | prepared _ _ => "prepared statement"
  | cursorOpened _ _ => "opened cursor"
  | executed _ _ _ => "executed"
  | fetched _ _ => "fetched"
  | exhausted _ => "reader exhausted"
  | fetchFailed _ => "fetch failed; closing reader"
  | abandoned _ => "reader dropped while active"
  | released => "executor context released"
  | textDecoded _ _ => "decoding datum through text output"

/-- The fields of an event, given what the host application calls its types. -/
def fields (names : TargetNames) : Event → List (String × FieldContent)
  | keyIgnored key => [("key", .text key)]
  | connectionOpened => []
  | planned sql parameters => [("sql", .text sql), ("parameters", .number parameters)]
  | prepared sql parameters => [("sql", .text sql), ("parameters", .number parameters)]
  | cursorOpened _ sql => [("sql", .text sql)]
  | executed _ sql rows => [("sql", .text sql), ("rows", .number rows)]
  | fetched rows columns => [("row_count", .number rows), ("column_count", .number columns)]
  | exhausted rows => [("rows", .number rows)]
  | fetchFailed error => [("error", .text (error.message names))]
  | abandoned rows => [("rows", .number rows)]
  | released => []
  | textDecoded oid text => [("oid", .number oid.toNat), ("text", .text text)]

end Event

end InProcessSql
