import InProcessSql.Proofs.NameLookup

/-!
# The order of named parameters

Placeholders are numbered by the positions of the parameters, but what they refer to does not hang on these
positions. `treatedAlike_of_perm` says that two plans of a text whose parameters differ in their order only
number the same placeholders, and each of them with the same parameter.
-/

namespace InProcessSql

open InProcessSql.Sql InProcessSql.Text

/-- A name as placeholders are compared with it: without one leading at sign, and in small letters. -/
def Sql.nameKey (name : String) : List Char := foldCase (bareName name.toList)

theorem Sql.nameFits_iff_nameKey {ident : List Char} {name : String} :
    nameFits ident name = true ↔ nameKey name = foldCase ident := eqIgnoreCase_iff

/-- In two orders of a list with at most one element that fits, no element or the same element is found. -/
theorem findIdx?_of_perm {α : Type} {l l' : List α} (hperm : l.Perm l') {f : α → Bool}
    (hunique : ∀ a ∈ l, ∀ b ∈ l, f a = true → f b = true → a = b) :
    (l.findIdx? f = none ∧ l'.findIdx? f = none) ∨
      ∃ k k' a, l.findIdx? f = some k ∧ l'.findIdx? f = some k' ∧ l[k]? = some a ∧ l'[k']? = some a := by
  cases hk : l.findIdx? f with
  | none =>
    refine .inl ⟨rfl, List.findIdx?_eq_none_iff.2 fun a ha => ?_⟩
    exact List.findIdx?_eq_none_iff.1 hk a (hperm.mem_iff.2 ha)
  | some k =>
    obtain ⟨hlt, hfits, -⟩ := List.findIdx?_eq_some_iff_getElem.1 hk
    have hmem : l[k] ∈ l := List.getElem_mem hlt
    cases hk' : l'.findIdx? f with
    | none =>
      have hno := List.findIdx?_eq_none_iff.1 hk' l[k] (hperm.mem_iff.1 hmem)
      rw [hfits] at hno
      cases hno
    | some k' =>
      obtain ⟨hlt', hfits', -⟩ := List.findIdx?_eq_some_iff_getElem.1 hk'
      have hmem' : l'[k'] ∈ l := hperm.mem_iff.2 (List.getElem_mem hlt')
      have heq : l'[k'] = l[k] := hunique _ hmem' _ hmem hfits' hfits
      exact .inr ⟨k, k', l[k], rfl, rfl, List.getElem?_eq_getElem hlt,
        (List.getElem?_eq_getElem hlt').trans (congrArg some heq)⟩

namespace Parameters

variable {ps ps' : Parameters}

/-- The names differ by more than ASCII case and a leading at sign. -/
def NamesDiffer (ps : Parameters) : Prop := (ps.names.map nameKey).Nodup

/-- Parameters that all have names agree in style. -/
theorem exists_style (hnamed : ∀ p ∈ ps.toList, p.name.isSome = true) :
    ∃ style, ps.style = .ok style := by
  have hall : (ps.toList.all fun p => p.name.isSome) = true := List.all_eq_true.2 hnamed
  rw [style, hall]
  split
  · exact ⟨_, rfl⟩
  · split
    · exact ⟨_, rfl⟩
    · exact ⟨_, rfl⟩

/-- If the names differ, a parameter is known by its name. -/
theorem NamesDiffer.eq_of_any_nameFits (hdiffer : ps.NamesDiffer)
    (hnamed : ∀ p ∈ ps.toList, p.name.isSome = true) {ident : List Char} {p q : Parameter}
    (hp : p ∈ ps.toList) (hq : q ∈ ps.toList) (hfits : p.name.any (nameFits ident) = true)
    (hfits' : q.name.any (nameFits ident) = true) : p = q := by
  have hnames : ps.toList.map Parameter.name = ps.names.map some := by
    rw [names, List.map_filterMap_some_eq_filter_map_isSome]
    symm
    apply List.filter_eq_self.2
    exact List.forall_mem_map.2 hnamed
  -- A name fits by its key, and the keys of the parameters differ.
  have hkeys : (ps.toList.map fun p => p.name.map nameKey).Nodup := by
    have hmap : (ps.toList.map fun p => p.name.map nameKey)
        = (ps.names.map nameKey).map some := by
      rw [← Function.comp_def (Option.map nameKey) Parameter.name, ← List.map_map, hnames, List.map_map,
        List.map_map]
      rfl
    rw [hmap]
    exact hdiffer.map (Option.some_injective _)
  have hkey : ∀ {r : Parameter}, r.name.any (nameFits ident) = true →
      r.name.map nameKey = some (foldCase ident) := by
    intro r hr
    obtain ⟨name, hname, hname'⟩ := (Option.any_eq_true _ _).1 hr
    rw [hname, Option.map_some, nameFits_iff_nameKey.1 hname']
  exact List.inj_on_of_nodup_map hkeys hp hq ((hkey hfits).trans (hkey hfits').symm)

/-- Two orders of parameters whose names differ are asked for an identifier: it means none of them, or the
same one. -/
theorem positionOf?_of_perm (hperm : ps.toList.Perm ps'.toList)
    (hnamed : ∀ p ∈ ps.toList, p.name.isSome = true) (hdiffer : ps.NamesDiffer) (ident : List Char) :
    (positionOf? ps.names ident = none ∧ positionOf? ps'.names ident = none) ∨
      ∃ k k' p, positionOf? ps.names ident = some k ∧ positionOf? ps'.names ident = some k' ∧
        ps.toList[k]? = some p ∧ ps'.toList[k']? = some p := by
  have hnamed' : ∀ p ∈ ps'.toList, p.name.isSome = true := fun p hp => hnamed p (hperm.mem_iff.2 hp)
  rw [positionOf?_names hnamed, positionOf?_names hnamed']
  exact findIdx?_of_perm hperm fun p hp q hq => hdiffer.eq_of_any_nameFits hnamed hp hq

end Parameters

/-! ## Plans -/

/-- A text can be planned with named parameters if their types have OIDs. -/
theorem Plan.exists_of_iff {ps : Parameters} (hnamed : ∀ p ∈ ps.toList, p.name.isSome = true)
    (sql : String) : (∃ plan, Plan.of sql ps = .ok plan) ↔ ∀ p ∈ ps.toList, ∃ oid, p.type.oid = .ok oid := by
  obtain ⟨style, hstyle⟩ := Parameters.exists_style hnamed
  have hmapped : (∃ plan, Plan.of sql ps = .ok plan) ↔ ∃ oids, ps.types.mapM SqlType.oid = .ok oids := by
    simp only [Plan.of, hstyle]
    cases ps.types.mapM SqlType.oid <;> simp
  rw [hmapped, exists_mapM_eq_ok_iff, Parameters.types, List.forall_mem_map]

/-- What two plans make of a segment: both keep it, or both give it a number, which in each plan is that of
one and the same parameter, with the same OID. -/
inductive TreatedAlike (ps ps' : Parameters) (plan plan' : Plan) :
    Segment → List Char → List Char → Prop where
  | kept (s : Segment) : TreatedAlike ps ps' plan plan' s s.text s.text
  | numbered {ident : List Char} {k k' : Nat} {p : Parameter} {oid : Oid}
      (hp : ps.toList[k]? = some p) (hp' : ps'.toList[k']? = some p)
      (hoid : plan.oids[k]? = some oid) (hoid' : plan'.oids[k']? = some oid) :
      TreatedAlike ps ps' plan plan' (.placeholder ident) (positional k) (positional k')

/-- Two orders of named parameters whose names differ can be planned with a text or not alike. The plans
number the same segments of the text, each with the same parameter and OID, and keep all others. -/
theorem treatedAlike_of_perm {ps ps' : Parameters} (hperm : ps.toList.Perm ps'.toList)
    (hnamed : ∀ p ∈ ps.toList, p.name.isSome = true) (hdiffer : ps.NamesDiffer) (sql : String) :
    ((∃ plan, Plan.of sql ps = .ok plan) ↔ ∃ plan', Plan.of sql ps' = .ok plan') ∧
      ∀ plan plan', Plan.of sql ps = .ok plan → Plan.of sql ps' = .ok plan' →
        (segments sql.toList).flatMap Segment.text = sql.toList ∧
          (segments sql.toList).flatMap (Segment.rewrite ps.names) = plan.sql.toList ∧
          (segments sql.toList).flatMap (Segment.rewrite ps'.names) = plan'.sql.toList ∧
          ∀ s ∈ segments sql.toList,
            TreatedAlike ps ps' plan plan' s (s.rewrite ps.names) (s.rewrite ps'.names) := by
  have hnamed' : ∀ p ∈ ps'.toList, p.name.isSome = true := fun p hp => hnamed p (hperm.mem_iff.2 hp)
  refine ⟨?_, fun plan plan' hplan hplan' => ?_⟩
  · rw [Plan.exists_of_iff hnamed, Plan.exists_of_iff hnamed']
    simp only [hperm.mem_iff]
  · obtain ⟨hsql, -⟩ := Plan.of_sql hnamed hplan
    obtain ⟨hsql', -⟩ := Plan.of_sql hnamed' hplan'
    refine ⟨flatten_segments _, ?_, ?_, fun s _ => ?_⟩
    · rw [hsql, rewrite, String.toList_ofList, rewriteChars]
    · rw [hsql', rewrite, String.toList_ofList, rewriteChars]
    · cases s with
      | verbatim text => exact .kept (.verbatim text)
      | placeholder ident =>
        rcases Parameters.positionOf?_of_perm hperm hnamed hdiffer ident with
          ⟨hnone, hnone'⟩ | ⟨k, k', p, hk, hk', hp, hp'⟩
        · simp only [Segment.rewrite, hnone, hnone']
          exact .kept (.placeholder ident)
        · obtain ⟨oid, hoid, htype⟩ := (Plan.fits_of hplan).exists_oid hp
          obtain ⟨oid', hoid', htype'⟩ := (Plan.fits_of hplan').exists_oid hp'
          obtain rfl : oid = oid' := Except.ok.inj (htype.symm.trans htype')
          simp only [Segment.rewrite, hk, hk']
          exact .numbered hp hp' hoid hoid'

/-- Two parameters in either order, with a placeholder in a literal and one that means neither. -/
theorem treatedAlike_of_swap :
    let a : Parameter := .named "@a" (.int4 1)
    let b : Parameter := .named "Bé" (.text "x")
    let ps : Parameters := ⟨[a, b]⟩
    let ps' : Parameters := ⟨[b, a]⟩
    let sql := "select @BÉ, '@a', @A, @bé"
    let plan : Plan := ⟨"select @BÉ, '@a', $1, $2", [.scalar .integer, .scalar .text], [23, 25]⟩
    let plan' : Plan := ⟨"select @BÉ, '@a', $2, $1", [.scalar .text, .scalar .integer], [25, 23]⟩
    ps.toList.Perm ps'.toList ∧ (∀ p ∈ ps.toList, p.name.isSome = true) ∧ ps.NamesDiffer ∧
      Plan.of sql ps = .ok plan ∧ Plan.of sql ps' = .ok plan' ∧
      ((∃ plan, Plan.of sql ps = .ok plan) ↔ ∃ plan', Plan.of sql ps' = .ok plan') ∧
      (segments sql.toList).flatMap Segment.text = sql.toList ∧
      (segments sql.toList).flatMap (Segment.rewrite ps.names) = plan.sql.toList ∧
      (segments sql.toList).flatMap (Segment.rewrite ps'.names) = plan'.sql.toList ∧
      ∀ s ∈ segments sql.toList,
        TreatedAlike ps ps' plan plan' s (s.rewrite ps.names) (s.rewrite ps'.names) := by
  intro a b ps ps' sql plan plan'
  have hperm : ps.toList.Perm ps'.toList := .swap b a []
  have hnamed : ∀ p ∈ ps.toList, p.name.isSome = true := by decide
  have hdiffer : ps.NamesDiffer := by
    show (ps.names.map nameKey).Nodup
    decide
  have hplan : Plan.of sql ps = .ok plan := by cbv
  have hplan' : Plan.of sql ps' = .ok plan' := by cbv
  obtain ⟨hsame, halike⟩ := treatedAlike_of_perm hperm hnamed hdiffer sql
  exact ⟨hperm, hnamed, hdiffer, hplan, hplan', hsame, halike plan plan' hplan hplan'⟩

end InProcessSql
