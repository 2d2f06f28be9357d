import InProcessSql.Error
import InProcessSql.Sql.Placeholder

/-!
# Parameters and plans of a command

A parameter has a value, and may have a name and a type of its own. Without a type it has that of its
value. Names are kept without the `@` in front, and found up to ASCII case.

The parameters of a command are either all named, and the text then refers to them as `@name`, or none is,
and the text refers to them by position. `Parameters.style` tells which.

A plan is what the executor has to know of a command before any value: the text with numbered placeholders, and the
type and OID of each parameter. It depends on the values of the parameters only through their types.
-/

namespace InProcessSql

open InProcessSql.Sql InProcessSql.Text

/-- A parameter of a command. -/
structure Parameter where
  /-- The name, without `@`. -/
  name : Option String
  value : Value
  /-- The type that was given with the parameter. -/
  explicitType : Option SqlType := none
  deriving Repr, Inhabited

namespace Parameter

def positional (value : Value) : Parameter := { name := none, value }

/-- A parameter with a name, which may be given with the `@`. An empty name is none. -/
def named (name : String) (value : Value) : Parameter :=
  let bare := bareName name.toList
  { name := if bare.isEmpty then none else some (String.ofList bare), value }

def withType (p : Parameter) (type : SqlType) : Parameter := { p with explicitType := some type }

/-- The parameter with the type of the given tag. -/
def withTag (p : Parameter) (tag : Int32) : Except Error Parameter := (SqlType.ofTag tag).map p.withType

def withValue (p : Parameter) (value : Value) : Parameter := { p with value }

/-- The type of the parameter: the one given, or else that of the value. -/
def type (p : Parameter) : SqlType := p.explicitType.getD p.value.type

/-- Whether a name, given with or without the `@`, means the parameter. -/
def isCalled (name : String) (p : Parameter) : Bool :=
  p.name.any fun own => eqIgnoreCase own.toList (bareName name.toList)

end Parameter

/-- How the text of a command refers to its parameters. -/
inductive ParameterStyle where
  | positional
  | named
  deriving DecidableEq, Repr, Inhabited

/-- The parameters of a command, in order. -/
structure Parameters where
  toList : List Parameter := []
  deriving Repr, Inhabited

namespace Parameters

def add (ps : Parameters) (p : Parameter) : Parameters := ⟨ps.toList ++ [p]⟩

def size (ps : Parameters) : Nat := ps.toList.length

def names (ps : Parameters) : List String := ps.toList.filterMap Parameter.name

/-- The position of the first parameter that a name means. -/
def indexOf? (ps : Parameters) (name : String) : Option Nat :=
  ps.toList.findIdx? (Parameter.isCalled name)

/-- The first parameter that a name means. -/
def get? (ps : Parameters) (name : String) : Option Parameter := ps.toList.find? (Parameter.isCalled name)

/-- The parameters after the first one that a name means has got another value. -/
def setValue (ps : Parameters) (name : String) (value : Value) : Parameters :=
  match ps.indexOf? name with
  | some i => ⟨ps.toList.modify i fun p => p.withValue value⟩
  | none => ps

/-- How the text refers to the parameters, if there are any. -/
def style (ps : Parameters) : Except Error (Option ParameterStyle) :=
  if ps.toList.isEmpty then .ok none
  else if ps.toList.all fun p => p.name.isNone then .ok (some .positional)
  else if ps.toList.all fun p => p.name.isSome then .ok (some .named)
  else .error .mixedParameterStyle

def types (ps : Parameters) : List SqlType := ps.toList.map Parameter.type

@[simp] theorem toList_add (ps : Parameters) (p : Parameter) : (ps.add p).toList = ps.toList ++ [p] := rfl

@[simp] theorem length_types (ps : Parameters) : ps.types.length = ps.toList.length := by simp [types]

end Parameters

/-! ## Plans -/

/-- The text and parameter types of a command, as the executor takes them. -/
structure Plan where
  /-- The text, with numbered placeholders. -/
  sql : String
  types : List SqlType
  oids : List Oid
  deriving DecidableEq, Repr, Inhabited

/-- The text of a command whose parameters have the given style and names. -/
def Plan.textOf (style : Option ParameterStyle) (names : List String) (sql : String) : String :=
  match style with
  | some .named => Sql.rewrite names sql
  | _ => sql

/-- The plan of a command. The style of the parameters is checked before their types. -/
def Plan.of (sql : String) (ps : Parameters) : Except Error Plan :=
  match ps.style with
  | .error e => .error e
  | .ok style =>
    match ps.types.mapM SqlType.oid with
    | .error e => .error e
    | .ok oids => .ok ⟨Plan.textOf style ps.names sql, ps.types, oids⟩

end InProcessSql
