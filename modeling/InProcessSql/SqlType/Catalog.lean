import InProcessSql.SqlType.Basic

/-!
# The catalogue of native type identifiers

The executor knows types by their OIDs. The catalogue lists, for every built-in scalar type, its OID
and those of the composites over it. Arrays of ranges and multiranges are listed apart, by the names of the
ranges. Types of extensions have no fixed OID and are not listed.

`SqlType.oid?` looks a type up, `scalarOfOid?` and `elementOfOid?` find the scalar type of an OID or of its
elements, and `typeName?` names an OID.
-/

namespace InProcessSql

/-- A native type identifier. -/
abbrev Oid := UInt32

/-- The identifiers of a range or multirange type. -/
structure RangeIds where
  oid : Oid
  name : String
  deriving DecidableEq, Repr

/-- The identifiers of a scalar type and of the composites over it. -/
structure CatalogEntry where
  base : ScalarType
  oid : Oid
  arrayOid : Option Oid
  /-- The ranges over it. -/
  range : Option RangeIds := none
  /-- The multiranges over it. -/
  multirange : Option RangeIds := none
  deriving DecidableEq, Repr

/-! ## The catalogue -/

/-- The built-in types. -/
def catalog : List CatalogEntry :=
  [⟨.bigint, 20, some 1016, some ⟨3926, "int8range"⟩, some ⟨4536, "int8multirange"⟩⟩,
   ⟨.boolean, 16, some 1000, none, none⟩,
   ⟨.box, 603, some 1020, none, none⟩,
   ⟨.bytea, 17, some 1001, none, none⟩,
   ⟨.circle, 718, some 719, none, none⟩,
   ⟨.char, 1042, some 1014, none, none⟩,
   ⟨.date, 1082, some 1182, some ⟨3912, "daterange"⟩, some ⟨4535, "datemultirange"⟩⟩,
   ⟨.double, 701, some 1022, none, none⟩,
   ⟨.integer, 23, some 1007, some ⟨3904, "int4range"⟩, some ⟨4451, "int4multirange"⟩⟩,
   ⟨.line, 628, some 629, none, none⟩,
   ⟨.lseg, 601, some 1018, none, none⟩,
   ⟨.money, 790, some 791, none, none⟩,
   ⟨.numeric, 1700, some 1231, some ⟨3906, "numrange"⟩, some ⟨4532, "nummultirange"⟩⟩,
   ⟨.path, 602, some 1019, none, none⟩,
   ⟨.point, 600, some 1017, none, none⟩,
   ⟨.polygon, 604, some 1027, none, none⟩,
   ⟨.real, 700, some 1021, none, none⟩,
   ⟨.smallint, 21, some 1005, none, none⟩,
   ⟨.text, 25, some 1009, none, none⟩,
   ⟨.time, 1083, some 1183, none, none⟩,
   ⟨.timestamp, 1114, some 1115, some ⟨3908, "tsrange"⟩, some ⟨4533, "tsmultirange"⟩⟩,
   ⟨.varchar, 1043, some 1015, none, none⟩,
   ⟨.refcursor, 1790, some 2201, none, none⟩,
   ⟨.inet, 869, some 1041, none, none⟩,
   ⟨.bit, 1560, some 1561, none, none⟩,
   ⟨.timestamptz, 1184, some 1185, some ⟨3910, "tstzrange"⟩, some ⟨4534, "tstzmultirange"⟩⟩,
   ⟨.uuid, 2950, some 2951, none, none⟩,
   ⟨.xml, 142, some 143, none, none⟩,
   ⟨.oidvector, 30, some 1013, none, none⟩,
   ⟨.interval, 1186, some 1187, none, none⟩,
   ⟨.timetz, 1266, some 1270, none, none⟩,
   ⟨.name, 19, some 1003, none, none⟩,
   ⟨.macaddr, 829, some 1040, none, none⟩,
   ⟨.json, 114, some 199, none, none⟩,
   ⟨.jsonb, 3802, some 3807, none, none⟩,
   ⟨.internalChar, 18, some 1002, none, none⟩,
   ⟨.varbit, 1562, some 1563, none, none⟩,
   ⟨.unknown, 705, none, none, none⟩,
   ⟨.oid, 26, some 1028, none, none⟩,
   ⟨.xid, 28, some 1011, none, none⟩,
   ⟨.cid, 29, some 1012, none, none⟩,
   ⟨.cidr, 650, some 651, none, none⟩,
   ⟨.tsvector, 3614, some 3643, none, none⟩,
   ⟨.tsquery, 3615, some 3645, none, none⟩,
   ⟨.regtype, 2206, some 2211, none, none⟩,
   ⟨.int2vector, 22, some 1006, none, none⟩,
   ⟨.tid, 27, some 1010, none, none⟩,
   ⟨.macaddr8, 774, some 775, none, none⟩,
   ⟨.regconfig, 3734, some 3735, none, none⟩,
   ⟨.jsonpath, 4072, some 4073, none, none⟩,
   ⟨.pgLsn, 3220, some 3221, none, none⟩,
   ⟨.xid8, 5069, some 271, none, none⟩]

/-- The OIDs of the arrays of ranges, by the names of the ranges. -/
def rangeArrays : List (String × Oid) :=
  [("int4range", 3905), ("numrange", 3907), ("tsrange", 3909), ("tstzrange", 3911), ("daterange", 3913),
   ("int8range", 3927)]

/-- The OIDs of the arrays of multiranges, by the names of the multiranges. -/
def multirangeArrays : List (String × Oid) :=
  [("int4multirange", 6150), ("nummultirange", 6151), ("tsmultirange", 6152), ("tstzmultirange", 6153),
   ("datemultirange", 6155), ("int8multirange", 6157)]

/-- The entry of a scalar type. -/
def entryOf? (base : ScalarType) : Option CatalogEntry := catalog.find? fun e => e.base == base

def ElementType.oid? : ElementType → Option Oid
  | .scalar base => (entryOf? base).map CatalogEntry.oid
  | .range base => ((entryOf? base).bind CatalogEntry.range).map RangeIds.oid
  | .multirange base => ((entryOf? base).bind CatalogEntry.multirange).map RangeIds.oid

def ElementType.arrayOid? : ElementType → Option Oid
  | .scalar base => (entryOf? base).bind CatalogEntry.arrayOid
  | .range base => ((entryOf? base).bind CatalogEntry.range).bind fun r => rangeArrays.lookup r.name
  | .multirange base =>
    ((entryOf? base).bind CatalogEntry.multirange).bind fun r => multirangeArrays.lookup r.name

/-- The OID of a type, if the catalogue has one. -/
def SqlType.oid? : SqlType → Option Oid
  | .single type => type.oid?
  | .array element => element.arrayOid?

/-- The scalar type with the given OID. -/
def scalarOfOid? (oid : Oid) : Option ScalarType :=
  (catalog.find? fun e => e.oid == oid).map CatalogEntry.base

/-- The entry of the scalar type whose arrays have the given OID. -/
def entryOfArrays? (arrayOid : Oid) : Option CatalogEntry :=
  catalog.find? fun e => e.arrayOid == some arrayOid

/-- The scalar type whose arrays have the given OID. -/
def elementOfOid? (arrayOid : Oid) : Option ScalarType := (entryOfArrays? arrayOid).map CatalogEntry.base

/-- The OID of the elements of an array OID, for arrays of scalar types. -/
def elementOid? (arrayOid : Oid) : Option Oid := (entryOfArrays? arrayOid).map CatalogEntry.oid

/-- The OIDs of an entry, each with its name: arrays end in brackets, and ranges have names of their own. -/
def CatalogEntry.names (e : CatalogEntry) : List (Oid × String) :=
  (e.oid, e.base.sqlName)
    :: (e.arrayOid.toList.map fun o => (o, e.base.sqlName ++ "[]"))
    ++ e.range.toList.map (fun r => (r.oid, r.name))
    ++ e.multirange.toList.map (fun r => (r.oid, r.name))

/-- The OIDs of the catalogue, each with its name. Arrays of ranges come last. -/
def nativeNames : List (Oid × String) :=
  catalog.flatMap CatalogEntry.names
    ++ (rangeArrays ++ multirangeArrays).map fun (name, oid) => (oid, name ++ "[]")

def typeName? (oid : Oid) : Option String := nativeNames.lookup oid

end InProcessSql
