import InProcessSql.Proofs.Plans

/-!
# Plans that are refused

A command cannot be planned for two reasons only: some of its parameters have names and others have none, or a type
that was given with a parameter has no OID. `Plan.of_eq_error_iff` says when which error is answered. Types that are
taken from values are never at fault, whatever the value.
-/

namespace InProcessSql

/-! ## Types of values -/

/-- There are arrays over the type of any value that is not null, or else over texts. -/
theorem Value.exists_arrayOid {v : Value} (h : v.isNull = false) :
    ∃ oid, (SqlType.arrayOf (v.scalarType?.getD .text)).oid = .ok oid := by
  cases v with
  | null => cases h
  | _ => exact ⟨_, rfl⟩

/-- The type of a value has an OID. -/
theorem Value.exists_oid (v : Value) : ∃ oid, v.type.oid = .ok oid := by
  cases v with
  | array items =>
    rw [Value.type]
    cases hfind : items.find? fun v => !v.isNull with
    | none => exact ⟨_, rfl⟩
    | some v => exact v.exists_arrayOid (by simpa using List.find?_some hfind)
  | _ => exact ⟨_, rfl⟩

/-! ## Parameters at fault -/

/-- Some parameters have a name and others have none. -/
def Parameters.IsMixed (ps : Parameters) : Prop :=
  (∃ p ∈ ps.toList, p.name.isSome = true) ∧ ∃ p ∈ ps.toList, p.name.isNone = true

/-- The parameter was given a type, and that has no OID. -/
def Parameter.IsUnsupported (p : Parameter) (type : SqlType) : Prop :=
  p.explicitType = some type ∧ type.oid? = none

/-- Parameters are mixed if they are neither all named nor all without a name. -/
theorem Parameters.isMixed_iff {ps : Parameters} :
    ps.IsMixed ↔ (ps.toList.all fun p => p.name.isNone) = false ∧ (ps.toList.all fun p => p.name.isSome) = false := by
  simp only [IsMixed, List.all_eq_false, Bool.not_eq_true, Option.isNone_eq_false_iff, Option.isSome_eq_false_iff]

/-- The style of parameters is refused exactly if they are mixed. -/
theorem Parameters.style_eq_error_iff {ps : Parameters} {e : Error} :
    ps.style = .error e ↔ ps.IsMixed ∧ e = .mixedParameterStyle := by
  rw [style, isMixed_iff]
  split_ifs with hempty hpositional hnamed
  · rw [List.isEmpty_iff.1 hempty]
    exact iff_of_false nofun nofun
  · rw [hpositional]
    exact iff_of_false nofun nofun
  · rw [hnamed]
    exact iff_of_false nofun nofun
  · rw [Bool.not_eq_true] at hpositional hnamed
    rw [hpositional, hnamed]
    exact ⟨fun h => ⟨⟨rfl, rfl⟩, (Except.error.inj h).symm⟩, fun h => congrArg _ h.2.symm⟩

/-- The type of a parameter is refused exactly if it was given with the parameter and has no OID. -/
theorem Parameter.oid_type_eq_error_iff {p : Parameter} {e : Error} :
    p.type.oid = .error e ↔ ∃ type, p.IsUnsupported type ∧ e = .unsupportedType type := by
  rw [Parameter.type]
  cases htype : p.explicitType with
  | none =>
    obtain ⟨oid, hoid⟩ := p.value.exists_oid
    simp [hoid, IsUnsupported, htype]
  | some type =>
    rw [Option.getD_some, SqlType.oid]
    cases hoid : type.oid? with
    | none => simp [IsUnsupported, htype, hoid, eq_comm]
    | some oid => simp [IsUnsupported, htype, hoid]

/-- A parameter has an OID unless its type is unsupported. -/
theorem Parameter.exists_oid_type_iff {p : Parameter} :
    (∃ oid, p.type.oid = .ok oid) ↔ ∀ type, ¬p.IsUnsupported type := by
  cases hoid : p.type.oid with
  | error e =>
    obtain ⟨type, htype, -⟩ := oid_type_eq_error_iff.1 hoid
    exact iff_of_false nofun fun h => h type htype
  | ok oid =>
    refine iff_of_true ⟨oid, rfl⟩ fun type htype => ?_
    rw [oid_type_eq_error_iff.2 ⟨type, htype, rfl⟩] at hoid
    cases hoid

/-- The types of parameters are refused as the first one of them that is. -/
theorem Parameters.mapM_oid_eq_error_iff {ps : Parameters} {e : Error} :
    ps.types.mapM SqlType.oid = .error e ↔ ∃ before p after type, ps.toList = before ++ p :: after ∧
      (∀ q ∈ before, ∀ type, ¬q.IsUnsupported type) ∧ p.IsUnsupported type ∧ e = .unsupportedType type := by
  rw [types, List.mapM_map, mapM_eq_error_iff]
  simp only [Function.comp_apply, Parameter.exists_oid_type_iff, Parameter.oid_type_eq_error_iff,
    exists_and_left]

/-- All parameters have OIDs unless the type of one is unsupported. -/
theorem Parameters.exists_mapM_oid_iff {ps : Parameters} :
    (∃ oids, ps.types.mapM SqlType.oid = .ok oids) ↔ ∀ p ∈ ps.toList, ∀ type, ¬p.IsUnsupported type := by
  rw [exists_mapM_eq_ok_iff, types, List.forall_mem_map]
  simp only [Parameter.exists_oid_type_iff]

/-! ## Plans -/

/-- The style of the parameters decides first, and then their types. -/
theorem Plan.of_cases (sql : String) (ps : Parameters) :
    (ps.IsMixed ∧ Plan.of sql ps = .error .mixedParameterStyle) ∨
      ¬ps.IsMixed ∧ ∃ text, Plan.of sql ps = (ps.types.mapM SqlType.oid).map fun oids => ⟨text, ps.types, oids⟩ := by
  rw [Plan.of]
  cases hstyle : ps.style with
  | error e =>
    obtain ⟨hmixed, rfl⟩ := Parameters.style_eq_error_iff.1 hstyle
    exact .inl ⟨hmixed, rfl⟩
  | ok style =>
    refine .inr ⟨fun hmixed => ?_, Plan.textOf style ps.names sql, ?_⟩
    · rw [Parameters.style_eq_error_iff.2 ⟨hmixed, rfl⟩] at hstyle
      cases hstyle
    · cases ps.types.mapM SqlType.oid <;> rfl

/-- A plan is refused exactly if parameters with and without names are mixed, or, if they are not, exactly if a type
that was given with a parameter has no OID; the error then names the type of the first such parameter. In all other
cases there is a plan. The type that a value has without one being given always has an OID. -/
theorem Plan.of_eq_error_iff (sql : String) (ps : Parameters) :
    (∀ e, Plan.of sql ps = .error e ↔
      ps.IsMixed ∧ e = .mixedParameterStyle ∨
        ¬ps.IsMixed ∧ ∃ before p after type, ps.toList = before ++ p :: after ∧
          (∀ q ∈ before, ∀ type, ¬q.IsUnsupported type) ∧ p.IsUnsupported type ∧
          e = .unsupportedType type) ∧
      ((∃ plan, Plan.of sql ps = .ok plan) ↔
        ¬ps.IsMixed ∧ ∀ p ∈ ps.toList, ∀ type, ¬p.IsUnsupported type) ∧
      ∀ v : Value, ∃ oid, v.type.oid = .ok oid := by
  rw [← Parameters.exists_mapM_oid_iff]
  simp only [← Parameters.mapM_oid_eq_error_iff]
  refine ⟨fun e => ?_, ?_, Value.exists_oid⟩
  · rcases Plan.of_cases sql ps with ⟨hmixed, hplan⟩ | ⟨hmixed, text, hplan⟩
    · simp [hplan, hmixed, eq_comm]
    · rw [hplan]
      cases ps.types.mapM SqlType.oid <;> simp [hmixed, Except.map]
  · rcases Plan.of_cases sql ps with ⟨hmixed, hplan⟩ | ⟨hmixed, text, hplan⟩
    · simp [hplan, hmixed]
    · rw [hplan]
      cases ps.types.mapM SqlType.oid <;> simp [hmixed, Except.map]

end InProcessSql
