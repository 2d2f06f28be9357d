import InProcessSql.SqlType.Catalog
import InProcessSql.Number.Decimal
import InProcessSql.Text.Lowercase

/-!
# Columns of a result

The columns of a result have names and native types. Columns are found by name up to letter case; of
several that fit, the first counts.
-/

namespace InProcessSql

open InProcessSql.Number InProcessSql.Text

/-- A column of a result. -/
structure Column where
  name : String
  oid : Oid
  deriving DecidableEq, Repr, Inhabited

/-- The name of a native type, or its OID if the catalogue does not have it. -/
def Column.typeName (c : Column) : String :=
  (typeName? c.oid).getD ("oid:" ++ String.ofList (digits c.oid.toNat))

/-- The columns of a result, in order. -/
structure Columns where
  toList : List Column := []
  deriving DecidableEq, Repr, Inhabited

namespace Columns

def size (cs : Columns) : Nat := cs.toList.length

def names (cs : Columns) : List String := cs.toList.map Column.name

def get? (cs : Columns) (i : Nat) : Option Column := cs.toList[i]?

/-- The position of the first column of that name. -/
def find? (cs : Columns) (name : String) : Option Nat :=
  let wanted := lowercase name.toList
  cs.toList.findIdx? fun c => lowercase c.name.toList == wanted

end Columns

end InProcessSql
