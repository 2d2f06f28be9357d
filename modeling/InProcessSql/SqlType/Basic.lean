import InProcessSql.SqlType.Scalar

/-!
# Types of parameters and columns

A type is a scalar type, a range or multirange over one, or an array of any of these. Arrays do not
nest. `sqlName` spells a type out, and `ofSqlName?` finds the type that is spelled so.
-/

namespace InProcessSql

/-- A type that an array may have as its elements. -/
inductive ElementType where
  | scalar (base : ScalarType)
  | range (base : ScalarType)
  | multirange (base : ScalarType)
  deriving DecidableEq, Repr, Inhabited

/-- The type of a parameter or column. -/
inductive SqlType where
  | single (type : ElementType)
  | array (element : ElementType)
  deriving DecidableEq, Repr, Inhabited

namespace ElementType

def base : ElementType → ScalarType
  | scalar base => base
  | range base => base
  | multirange base => base

def sqlName : ElementType → String
  | scalar base => base.sqlName
  | range base => "range<" ++ base.sqlName ++ ">"
  | multirange base => "multirange<" ++ base.sqlName ++ ">"

def all : List ElementType :=
  ScalarType.all.flatMap fun base => [scalar base, range base, multirange base]

/-- The list has every type of an element. -/
theorem mem_all (type : ElementType) : type ∈ all := by
  have h := ScalarType.mem_all type.base
  cases type <;> exact List.mem_flatMap.2 ⟨_, h, by simp [base]⟩

end ElementType

namespace SqlType

abbrev scalar (base : ScalarType) : SqlType := .single (.scalar base)

abbrev arrayOf (base : ScalarType) : SqlType := .array (.scalar base)

def sqlName : SqlType → String
  | single type => type.sqlName
  | array element => element.sqlName ++ "[]"

def all : List SqlType := ElementType.all.flatMap fun type => [single type, array type]

/-- The list has every type. -/
theorem mem_all (type : SqlType) : type ∈ all := by
  cases type with
  | single type => exact List.mem_flatMap.2 ⟨type, ElementType.mem_all type, by simp⟩
  | array type => exact List.mem_flatMap.2 ⟨type, ElementType.mem_all type, by simp⟩

/-- The type that is spelled so. -/
def ofSqlName? (s : String) : Option SqlType := all.find? fun type => type.sqlName == s

end SqlType

end InProcessSql
