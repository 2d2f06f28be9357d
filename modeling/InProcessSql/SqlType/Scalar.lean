/-!
# Scalar types

The scalar types that parameters and columns may have. Each has an ordinal, by which older callers
name it, and a name in SQL. Some ordinals are not in use. `ofOrdinal_ordinal` and
`ordinal_of_ofOrdinal` say that ordinals and types determine each other.
-/

namespace InProcessSql

/-- A scalar type. -/
inductive ScalarType where
  | bigint
  | boolean
  | box
  | bytea
  | circle
  | char
  | date
  | double
  | integer
  | line
  | lseg
  | money
  | numeric
  | path
  | point
  | polygon
  | real
  | smallint
  | text
  | time
  | timestamp
  | varchar
  | refcursor
  | inet
  | bit
  | timestamptz
  | uuid
  | xml
  | oidvector
  | interval
  | timetz
  | name
  | macaddr
  | json
  | jsonb
  | hstore
  | internalChar
  | varbit
  | unknown
  | oid
  | xid
  | cid
  | cidr
  | tsvector
  | tsquery
  | regtype
  | geometry
  | citext
  | int2vector
  | tid
  | macaddr8
  | geography
  | regconfig
  | jsonpath
  | pgLsn
  | ltree
  | lquery
  | ltxtquery
  | xid8
  deriving DecidableEq, Repr, Inhabited

namespace ScalarType

/-- Every scalar type, in the order of their ordinals. -/
def all : List ScalarType :=
  [bigint, boolean, box, bytea, circle, char, date, double, integer, line, lseg, money, numeric, path,
   point, polygon, real, smallint, text, time, timestamp, varchar, refcursor, inet, bit, timestamptz,
   uuid, xml, oidvector, interval, timetz, name, macaddr, json, jsonb, hstore, internalChar, varbit,
   unknown, oid, xid, cid, cidr, tsvector, tsquery, regtype, geometry, citext, int2vector, tid, macaddr8,
   geography, regconfig, jsonpath, pgLsn, ltree, lquery, ltxtquery, xid8]

def ordinal : ScalarType → Nat
  | bigint => 1
  | boolean => 2
  | box => 3
  | bytea => 4
  | circle => 5
  | char => 6
  | date => 7
  | double => 8
  | integer => 9
  | line => 10
  | lseg => 11
  | money => 12
  | numeric => 13
  | path => 14
  | point => 15
  | polygon => 16
  | real => 17
  | smallint => 18
  | text => 19
  | time => 20
  | timestamp => 21
  | varchar => 22
  | refcursor => 23
  | inet => 24
  | bit => 25
  | timestamptz => 26
  | uuid => 27
  | xml => 28
  | oidvector => 29
  | interval => 30
  | timetz => 31
  | name => 32
  | macaddr => 34
  | json => 35
  | jsonb => 36
  | hstore => 37
  | internalChar => 38
  | varbit => 39
  | unknown => 40
  | oid => 41
  | xid => 42
  | cid => 43
  | cidr => 44
  | tsvector => 45
  | tsquery => 46
  | regtype => 49
  | geometry => 50
  | citext => 51
  | int2vector => 52
  | tid => 53
  | macaddr8 => 54
  | geography => 55
  | regconfig => 56
  | jsonpath => 57
  | pgLsn => 59
  | ltree => 60
  | lquery => 61
  | ltxtquery => 62
  | xid8 => 64

def sqlName : ScalarType → String
  | bigint => "int8"
  | boolean => "bool"
  | box => "box"
  | bytea => "bytea"
  | circle => "circle"
  | char => "bpchar"
  | date => "date"
  | double => "float8"
  | integer => "int4"
  | line => "line"
  | lseg => "lseg"
  | money => "money"
  | numeric => "numeric"
  | path => "path"
  | point => "point"
  | polygon => "polygon"
  | real => "float4"
  | smallint => "int2"
  | text => "text"
  | time => "time"
  | timestamp => "timestamp"
  | varchar => "varchar"
  | refcursor => "refcursor"
  | inet => "inet"
  | bit => "bit"
  | timestamptz => "timestamptz"
  | uuid => "uuid"
  | xml => "xml"
  | oidvector => "oidvector"
  | interval => "interval"
  | timetz => "timetz"
  | name => "name"
  | macaddr => "macaddr"
  | json => "json"
  | jsonb => "jsonb"
  | hstore => "hstore"
  | internalChar => "char"
  | varbit => "varbit"
  | unknown => "unknown"
  | oid => "oid"
  | xid => "xid"
  | cid => "cid"
  | cidr => "cidr"
  | tsvector => "tsvector"
  | tsquery => "tsquery"
  | regtype => "regtype"
  | geometry => "geometry"
  | citext => "citext"
  | int2vector => "int2vector"
  | tid => "tid"
  | macaddr8 => "macaddr8"
  | geography => "geography"
  | regconfig => "regconfig"
  | jsonpath => "jsonpath"
  | pgLsn => "pg_lsn"
  | ltree => "ltree"
  | lquery => "lquery"
  | ltxtquery => "ltxtquery"
  | xid8 => "xid8"

def ofOrdinal? (n : Int) : Option ScalarType := all.find? fun type => (type.ordinal : Int) == n

def ofSqlName? (s : String) : Option ScalarType := all.find? fun type => type.sqlName == s

/-- The list has every scalar type. -/
theorem mem_all (type : ScalarType) : type ∈ all := by
  cases type <;> decide

theorem ordinal_pos (type : ScalarType) : 0 < type.ordinal := by
  cases type <;> decide

theorem ordinal_le (type : ScalarType) : type.ordinal ≤ 64 := by
  cases type <;> decide

/-- A scalar type is found by its ordinal. -/
theorem ofOrdinal_ordinal (type : ScalarType) : ofOrdinal? type.ordinal = some type := by
  cases type <;> decide

/-- The scalar type that is found by an ordinal has it. -/
theorem ordinal_of_ofOrdinal {n : Int} {type : ScalarType} (h : ofOrdinal? n = some type) :
    (type.ordinal : Int) = n := by
  have := List.find?_some h
  simpa using this

end ScalarType

end InProcessSql
