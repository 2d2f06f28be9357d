import InProcessSql.Parameter

/-!
# Requests to the parameters of a command

A `ParametersRequest` asks for a change of the parameters or for something about them, and
`Parameters.answer` carries it out.
-/

namespace InProcessSql

/-- How the type of a parameter is given. -/
inductive TypeChoice where
  | inferred
  | type (type : SqlType)
  | tag (tag : Int32)
  deriving DecidableEq, Repr, Inhabited

/-- What a parameter is made of. -/
structure ParameterSpec where
  name : Option String
  value : Value
  type : TypeChoice
  deriving Repr, Inhabited

/-- The parameter; its tag may name no type. -/
def ParameterSpec.build (spec : ParameterSpec) : Except Error Parameter :=
  let p :=
    match spec.name with
    | some name => Parameter.named name spec.value
    | none => Parameter.positional spec.value
  match spec.type with
  | .inferred => .ok p
  | .type type => .ok (p.withType type)
  | .tag tag => p.withTag tag

/-- A request to the parameters of a command. -/
inductive ParametersRequest where
  | add (spec : ParameterSpec)
  | get (name : String)
  | set (name : String) (value : Value)
  | indexOf (name : String)
  | fits (name : String)
  | size
  | clear
  | style
  | list
  | plan (sql : String)
  deriving Repr, Inhabited

/-- The answer to a request to the parameters of a command. -/
inductive ParametersReply where
  | error (e : Error)
  | done
  | parameter (p : Option Parameter)
  | position (i : Option Nat)
  | flags (bs : List Bool)
  | size (n : Nat)
  | style (s : Option ParameterStyle)
  | all (ps : Parameters)
  | plan (p : Plan)
  deriving Repr, Inhabited

/-- The answer made of a result. -/
def ParametersReply.ofExcept {α : Type} (f : α → ParametersReply) : Except Error α → ParametersReply
  | .ok a => f a
  | .error e => .error e

/-- Carries out a request. -/
def Parameters.answer (ps : Parameters) : ParametersRequest → ParametersReply × Parameters
  | .add spec =>
    match spec.build with
    | .ok p => (.parameter (some p), ps.add p)
    | .error e => (.error e, ps)
  | .get name => (.parameter (ps.get? name), ps)
  | .set name value => ((.parameter ((ps.setValue name value).get? name)), ps.setValue name value)
  | .indexOf name => (.position (ps.indexOf? name), ps)
  | .fits name => (.flags (ps.toList.map (Parameter.isCalled name)), ps)
  | .size => (.size ps.size, ps)
  | .clear => (.done, {})
  | .style => (.ofExcept .style ps.style, ps)
  | .list => (.all ps, ps)
  | .plan sql => (.ofExcept .plan (Plan.of sql ps), ps)

end InProcessSql
