import InProcessSql.Proofs.FallibleMap
import InProcessSql.Proofs.TypeTags
import Mathlib.Data.List.Nodup

/-!
# Native types and their OIDs

No OID stands twice in the catalogue, so that the first entry that a search finds is the only one that it can
find. `SqlType.oid?_eq_some_iff` tells the types of the catalogue with their OIDs, `SqlType.eq_of_oid?` that
types are told apart by their OIDs, and `native_types_told_apart` says so of tags, names and elements.
-/

namespace InProcessSql

/-! ## The types of the catalogue -/

/-- The scalar type that a type is built on. -/
def SqlType.base : SqlType → ScalarType
  | single type => type.base
  | array element => element.base

/-- The types that are built on a scalar type. -/
def ScalarType.typesOver (base : ScalarType) : List SqlType :=
  [.scalar base, .arrayOf base, .single (.range base), .single (.multirange base), .array (.range base),
   .array (.multirange base)]

/-- The types over a scalar type are those with that base. -/
theorem ScalarType.mem_typesOver_iff {base : ScalarType} {type : SqlType} :
    type ∈ base.typesOver ↔ base = type.base := by
  rcases type with (b | b | b) | (b | b | b) <;> simp [typesOver, SqlType.base, ElementType.base, eq_comm]

/-- The OID of a type that is built on the scalar type of an entry. -/
def CatalogEntry.oidOf? (e : CatalogEntry) : SqlType → Option Oid
  | .single (.scalar _) => some e.oid
  | .single (.range _) => e.range.map RangeIds.oid
  | .single (.multirange _) => e.multirange.map RangeIds.oid
  | .array (.scalar _) => e.arrayOid
  | .array (.range _) => e.range.bind fun r => rangeArrays.lookup r.name
  | .array (.multirange _) => e.multirange.bind fun r => multirangeArrays.lookup r.name

/-- A type has its OID from the entry of the scalar type that it is built on. -/
theorem SqlType.oid?_eq_bind (type : SqlType) :
    type.oid? = (entryOf? type.base).bind fun e => e.oidOf? type := by
  rcases type with (b | b | b) | (b | b | b)
  all_goals
    simp only [SqlType.oid?, ElementType.oid?, ElementType.arrayOid?, SqlType.base, ElementType.base]
    cases entryOf? b <;> rfl

/-- The types of the catalogue, each with its OID. -/
def nativeTypes : List (Oid × SqlType) :=
  catalog.flatMap fun e => e.base.typesOver.filterMap fun type => (e.oidOf? type).map fun oid => (oid, type)

/-- No scalar type has two entries. -/
theorem nodup_bases : (catalog.map CatalogEntry.base).Nodup := by decide

/-- No two scalar types have arrays of one OID, and one scalar type only has no arrays. -/
theorem nodup_arrayOids : (catalog.map CatalogEntry.arrayOid).Nodup := by decide

/-- No OID stands twice in the catalogue. -/
theorem nodup_oids : (nativeTypes.map Prod.fst).Nodup := by decide +kernel

/-- The OIDs that have a name are those of the catalogue. -/
theorem perm_oids : (nativeNames.map Prod.fst).Perm (nativeTypes.map Prod.fst) := by decide +kernel

/-- A search by a key that differs for all members finds the member with that key. -/
theorem find?_key_eq_some_iff {α κ : Type} [BEq κ] [LawfulBEq κ] {key : α → κ} {l : List α}
    (hkeys : (l.map key).Nodup) {k : κ} {a : α} :
    l.find? (fun a => key a == k) = some a ↔ a ∈ l ∧ key a = k := by
  constructor
  · intro h
    exact ⟨List.mem_of_find?_eq_some h, by simpa using List.find?_some h⟩
  · rintro ⟨hmem, rfl⟩
    have hsome : (l.find? fun b => key b == key a).isSome = true :=
      List.find?_isSome.2 ⟨a, hmem, beq_self_eq_true _⟩
    obtain ⟨b, hb⟩ := Option.isSome_iff_exists.1 hsome
    have hkey : key b = key a := by simpa using List.find?_some hb
    rw [hb, List.inj_on_of_nodup_map hkeys (List.mem_of_find?_eq_some hb) hmem hkey]

/-- The catalogue has at most one entry for a scalar type. -/
theorem entryOf?_eq_some_iff {base : ScalarType} {e : CatalogEntry} :
    entryOf? base = some e ↔ e ∈ catalog ∧ e.base = base :=
  find?_key_eq_some_iff nodup_bases

/-- The catalogue has at most one entry for an OID of arrays. -/
theorem entryOfArrays?_eq_some_iff {arrayOid : Oid} {e : CatalogEntry} :
    entryOfArrays? arrayOid = some e ↔ e ∈ catalog ∧ e.arrayOid = some arrayOid :=
  find?_key_eq_some_iff nodup_arrayOids

/-- A type has an OID exactly if the catalogue has the type with that OID. -/
theorem SqlType.oid?_eq_some_iff {type : SqlType} {oid : Oid} :
    type.oid? = some oid ↔ (oid, type) ∈ nativeTypes := by
  have hmem : (oid, type) ∈ nativeTypes ↔ ∃ e ∈ catalog, e.base = type.base ∧ e.oidOf? type = some oid := by
    simp only [nativeTypes, List.mem_flatMap, List.mem_filterMap, ScalarType.mem_typesOver_iff,
      Option.map_eq_some_iff, Prod.mk.injEq]
    constructor
    · rintro ⟨e, he, _, hbase, _, hoid, rfl, rfl⟩
      exact ⟨e, he, hbase, hoid⟩
    · rintro ⟨e, he, hbase, hoid⟩
      exact ⟨e, he, type, hbase, oid, hoid, rfl, rfl⟩
  rw [hmem, SqlType.oid?_eq_bind, Option.bind_eq_some_iff]
  simp only [entryOf?_eq_some_iff, and_assoc]

/-- Types are told apart by their OIDs. -/
theorem SqlType.eq_of_oid? {a b : SqlType} {oid : Oid} (ha : a.oid? = some oid) (hb : b.oid? = some oid) :
    a = b := by
  have hpair := List.inj_on_of_nodup_map nodup_oids (SqlType.oid?_eq_some_iff.1 ha)
    (SqlType.oid?_eq_some_iff.1 hb) rfl
  exact congrArg Prod.snd hpair

/-! ## Searching by OID -/

/-- The OIDs that have a name are those of types. -/
theorem isSome_typeName?_iff (oid : Oid) :
    (typeName? oid).isSome = true ↔ ∃ type : SqlType, type.oid? = some oid := by
  have hnames : (typeName? oid).isSome = true ↔ oid ∈ nativeNames.map Prod.fst := by
    rw [typeName?, List.lookup_isSome_iff, List.mem_map]
    constructor
    · rintro ⟨p, hp, heq⟩
      exact ⟨p, hp, (eq_of_beq heq).symm⟩
    · rintro ⟨p, hp, rfl⟩
      exact ⟨p, hp, beq_self_eq_true _⟩
  rw [hnames, perm_oids.mem_iff, List.mem_map]
  constructor
  · rintro ⟨⟨_, type⟩, hmem, rfl⟩
    exact ⟨type, SqlType.oid?_eq_some_iff.2 hmem⟩
  · rintro ⟨type, htype⟩
    exact ⟨(oid, type), SqlType.oid?_eq_some_iff.1 htype, rfl⟩

/-- The OID of the elements is found exactly for the arrays of scalar types. -/
theorem elementOid?_eq_some_iff {arrayOid oid : Oid} :
    elementOid? arrayOid = some oid ↔
      ∃ base, (SqlType.arrayOf base).oid? = some arrayOid ∧ (SqlType.scalar base).oid? = some oid := by
  have hscalar : ∀ base, (SqlType.scalar base).oid? = (entryOf? base).map CatalogEntry.oid := fun _ => rfl
  have harray : ∀ base, (SqlType.arrayOf base).oid? = (entryOf? base).bind CatalogEntry.arrayOid := fun _ => rfl
  simp only [elementOid?, hscalar, harray, Option.map_eq_some_iff, Option.bind_eq_some_iff,
    entryOfArrays?_eq_some_iff, entryOf?_eq_some_iff]
  constructor
  · rintro ⟨e, ⟨hmem, harrays⟩, rfl⟩
    exact ⟨e.base, ⟨e, ⟨hmem, rfl⟩, harrays⟩, e, ⟨hmem, rfl⟩, rfl⟩
  · rintro ⟨base, ⟨e, ⟨hmem, hbase⟩, harrays⟩, e', ⟨hmem', hbase'⟩, rfl⟩
    have hsame : e' = e :=
      List.inj_on_of_nodup_map nodup_bases hmem' hmem (hbase'.trans hbase.symm)
    exact ⟨e', ⟨hmem', hsame ▸ harrays⟩, rfl⟩

/-! ## Tags -/

/-- A type resolves to the OID that the catalogue has for it. -/
theorem SqlType.oid_eq_ok_iff {type : SqlType} {oid : Oid} : type.oid = .ok oid ↔ type.oid? = some oid := by
  unfold SqlType.oid
  cases type.oid? with
  | none => simp
  | some oid' => simp

/-- A tag has an OID exactly if its type has. -/
theorem SqlType.oidOfTag_eq_ok_iff {tag : Int32} {oid : Oid} :
    SqlType.oidOfTag tag = .ok oid ↔ ∃ type : SqlType, type.tag = tag ∧ type.oid? = some oid := by
  simp only [SqlType.oidOfTag, ← SqlType.ofTag_eq_ok_iff, ← SqlType.oid_eq_ok_iff]
  exact bind_eq_ok_iff

/-- Native types are told apart: two tags with one OID are one tag, an OID has a name exactly if it is that of
a tag, and elements are found exactly for the arrays of scalar types. -/
theorem native_types_told_apart :
    (∀ (m n : Int32) (oid : Oid), SqlType.oidOfTag m = .ok oid → SqlType.oidOfTag n = .ok oid → m = n) ∧
      (∀ oid : Oid, (typeName? oid).isSome = true ↔ ∃ tag, SqlType.oidOfTag tag = .ok oid) ∧
      ∀ arrayOid oid : Oid, elementOid? arrayOid = some oid ↔
        ∃ base, (SqlType.arrayOf base).oid = .ok arrayOid ∧ (SqlType.scalar base).oid = .ok oid := by
  refine ⟨fun m n oid hm hn => ?_, fun oid => ?_, fun arrayOid oid => ?_⟩
  · obtain ⟨a, rfl, ha⟩ := SqlType.oidOfTag_eq_ok_iff.1 hm
    obtain ⟨b, rfl, hb⟩ := SqlType.oidOfTag_eq_ok_iff.1 hn
    rw [SqlType.eq_of_oid? ha hb]
  · rw [isSome_typeName?_iff]
    constructor
    · rintro ⟨type, htype⟩
      exact ⟨type.tag, SqlType.oidOfTag_eq_ok_iff.2 ⟨type, rfl, htype⟩⟩
    · rintro ⟨tag, htag⟩
      obtain ⟨type, -, htype⟩ := SqlType.oidOfTag_eq_ok_iff.1 htag
      exact ⟨type, htype⟩
  · simp only [elementOid?_eq_some_iff, SqlType.oid_eq_ok_iff]

/-- The arrays of the ranges over timestamps, whose OID is found by the name of the ranges, and the arrays of
timestamps. -/
theorem native_types_told_apart_timestamp :
    SqlType.oidOfTag (-1073741803) = .ok 3909 ∧
      SqlType.oidOfTag (SqlType.array (.range .timestamp)).tag = .ok 3909 ∧
      (-1073741803 : Int32) = (SqlType.array (.range .timestamp)).tag ∧
      (typeName? 3909).isSome = true ∧ elementOid? 1115 = some 1114 := by
  obtain ⟨htags, hnames, helements⟩ := native_types_told_apart
  have hnumber : SqlType.oidOfTag (-1073741803) = .ok 3909 := rfl
  have htag : SqlType.oidOfTag (SqlType.array (.range .timestamp)).tag = .ok 3909 := rfl
  exact ⟨hnumber, htag, htags _ _ 3909 hnumber htag, (hnames 3909).2 ⟨_, htag⟩,
    (helements 1115 1114).2 ⟨.timestamp, rfl, rfl⟩⟩

end InProcessSql
