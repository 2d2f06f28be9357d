import Mathlib
import InProcessSql.Proofs.Plans
import InProcessSql.Proofs.Sql.Rereading

/-!
# What a name refers to

The text of a command refers to a parameter by a placeholder, and its caller by a name that is looked up.
`Parameters.lookedUp` makes of a placeholder what the look-up says. `placeholders_looked_up` says exactly
when numbering placeholders does the same: a parameter that is given with two at signs keeps one of them
in its name, which numbering passes over and the look-up does not.
-/

namespace InProcessSql.Sql

open InProcessSql.Text

/-! ## Identifiers up to ASCII case -/

/-- Identifiers start with capitals as with small letters. -/
theorem isIdentStart_toLower (c : Char) : isIdentStart c.toLower = isIdentStart c := by
  unfold Char.toLower
  split
  · rename_i h
    have hlo : 65 ≤ c.val.toNat := h.1
    have hhi : c.val.toNat ≤ 90 := h.2
    simp only [isIdentStart, Char.isAlpha, Char.isUpper, Char.isLower]
    grind
  · rfl

/-- Identifiers go on with capitals as with small letters. -/
theorem isIdentChar_toLower (c : Char) : isIdentChar c.toLower = isIdentChar c := by
  have hdigit : c.toLower.isDigit = c.isDigit := by
    unfold Char.toLower
    split
    · rename_i h
      have hlo : 65 ≤ c.val.toNat := h.1
      have hhi : c.val.toNat ≤ 90 := h.2
      simp only [Char.isDigit]
      grind
    · rfl
  rw [isIdentChar, isIdentChar, isIdentStart_toLower, hdigit]

/-- Folding the case of a text neither makes nor unmakes an identifier. -/
theorem isIdentifier_foldCase {cs : List Char} : IsIdentifier (foldCase cs) ↔ IsIdentifier cs := by
  cases cs with
  | nil => rfl
  | cons c cs =>
    simp only [foldCase, List.map_cons, IsIdentifier, List.forall_mem_map, isIdentStart_toLower,
      isIdentChar_toLower]

/-- A text that agrees with an identifier up to ASCII case is one. -/
theorem IsIdentifier.of_eqIgnoreCase {cs ident : List Char} (h : IsIdentifier ident)
    (hfold : eqIgnoreCase cs ident = true) : IsIdentifier cs := by
  rw [← isIdentifier_foldCase, eqIgnoreCase_iff.1 hfold]
  exact isIdentifier_foldCase.2 h

/-- An identifier has no at sign in front. -/
theorem IsIdentifier.bareName_eq {ident : List Char} (h : IsIdentifier ident) : bareName ident = ident := by
  cases ident with
  | nil => rfl
  | cons c cs =>
    apply bareName_of_ne
    rintro rfl
    exact absurd h.1 (by decide)

/-- A name fits an identifier as it is, or behind an at sign. -/
theorem nameFits_cases {ident : List Char} (h : IsIdentifier ident) (name : String) :
    nameFits ident name = true ↔ eqIgnoreCase name.toList ident = true ∨
      ∃ rest, name.toList = '@' :: rest ∧ eqIgnoreCase rest ident = true := by
  rw [nameFits]
  constructor
  · intro hfits
    cases hname : name.toList with
    | nil =>
      rw [hname] at hfits
      exact .inl hfits
    | cons c cs =>
      rw [hname] at hfits
      by_cases hc : c = '@'
      · subst hc
        exact .inr ⟨cs, rfl, hfits⟩
      · rw [bareName_of_ne hc] at hfits
        exact .inl hfits
  · rintro (hfits | ⟨rest, hname, hfits⟩)
    · rwa [(h.of_eqIgnoreCase hfits).bareName_eq]
    · rwa [hname]

end InProcessSql.Sql

namespace InProcessSql

open InProcessSql.Number InProcessSql.Sql InProcessSql.Text

namespace Parameters

/-! ## Look-ups -/

/-- What a segment becomes if its placeholder is looked up: the number of the parameter that its identifier
means, or itself. -/
def lookedUp (ps : Parameters) : Segment → List Char
  | .verbatim text => text
  | .placeholder ident =>
    match ps.indexOf? (String.ofList ident) with
    | some k => positional k
    | none => '@' :: ident

/-- A parameter whose name is an identifier behind an at sign comes after one that the identifier means. -/
def AtSignsHidden (ps : Parameters) : Prop :=
  ∀ (j : Nat) (p : Parameter) (name : String) (ident : List Char), ps.toList[j]? = some p →
    p.name = some name → name.toList = '@' :: ident → IsIdentifier ident →
      ∃ i < j, ∃ q, ps.toList[i]? = some q ∧ q.isCalled (String.ofList ident) = true

/-- The parameter that is found by a name is the one at the position that is found. -/
theorem get?_of_indexOf? {ps : Parameters} {name : String} {k : Nat} (h : ps.indexOf? name = some k) :
    ∃ p, ps.toList[k]? = some p ∧ ps.get? name = some p := by
  obtain ⟨hk, hcalled, hfirst⟩ := List.findIdx?_eq_some_iff_getElem.1 h
  refine ⟨ps.toList[k], List.getElem?_eq_getElem hk, ?_⟩
  apply List.find?_eq_some_iff_getElem.2
  refine ⟨hcalled, k, hk, rfl, ?_⟩
  intro j hj
  simpa using hfirst j hj

theorem isCalled_ofList {ident : List Char} (h : IsIdentifier ident) (p : Parameter) :
    p.isCalled (String.ofList ident) = p.name.any fun own => eqIgnoreCase own.toList ident := by
  rw [Parameter.isCalled, String.toList_ofList, h.bareName_eq]

/-- If all parameters have names, the positions of the names are those of the parameters. -/
theorem positionOf?_names {ps : Parameters} (hnamed : ∀ p ∈ ps.toList, p.name.isSome = true)
    (ident : List Char) :
    positionOf? ps.names ident = ps.toList.findIdx? fun p => p.name.any (nameFits ident) := by
  obtain ⟨list⟩ := ps
  rw [positionOf?, names]
  induction list with
  | nil => rfl
  | cons p list ih =>
    obtain ⟨name, hname⟩ := Option.isSome_iff_exists.1 (hnamed p (by simp))
    have ih := ih fun q hq => hnamed q (by simp only at hq ⊢; exact List.mem_cons_of_mem p hq)
    simp only [List.filterMap_cons, hname, List.findIdx?_cons, Option.any_some]
    simp only at ih
    rw [ih]

/-- A parameter that the identifier means has a name that fits. -/
theorem any_nameFits_of_isCalled {ident : List Char} (h : IsIdentifier ident) {p : Parameter}
    (hcalled : p.isCalled (String.ofList ident) = true) : p.name.any (nameFits ident) = true := by
  rw [isCalled_ofList h, Option.any_eq_true] at hcalled
  obtain ⟨name, hname, hfits⟩ := hcalled
  rw [hname, Option.any_some]
  exact (nameFits_cases h name).2 (.inl hfits)

/-- A parameter whose name fits is meant by the identifier, or its name has an at sign in front. -/
theorem isCalled_or_of_any_nameFits {ident : List Char} (h : IsIdentifier ident) {p : Parameter}
    (hfits : p.name.any (nameFits ident) = true) :
    p.isCalled (String.ofList ident) = true ∨
      ∃ name rest, p.name = some name ∧ name.toList = '@' :: rest ∧ eqIgnoreCase rest ident = true := by
  rw [Option.any_eq_true] at hfits
  obtain ⟨name, hname, hfits⟩ := hfits
  rcases (nameFits_cases h name).1 hfits with hfits | ⟨rest, hat, hfits⟩
  · left
    rw [isCalled_ofList h, hname, Option.any_some]
    exact hfits
  · exact .inr ⟨name, rest, hname, hat, hfits⟩

/-- Identifiers that agree up to ASCII case mean the same parameters. -/
theorem isCalled_congr {ident other : List Char} (h : IsIdentifier ident)
    (hfold : eqIgnoreCase other ident = true) (p : Parameter) :
    p.isCalled (String.ofList other) = p.isCalled (String.ofList ident) := by
  rw [isCalled_ofList h, isCalled_ofList (h.of_eqIgnoreCase hfold)]
  simp only [eqIgnoreCase, eqIgnoreCase_iff.1 hfold]

/-- If the names with an at sign are hidden, the name that fits first is that of the parameter that is
meant first. -/
theorem AtSignsHidden.positionOf?_eq {ps : Parameters} (hhidden : ps.AtSignsHidden)
    (hnamed : ∀ p ∈ ps.toList, p.name.isSome = true) {ident : List Char} (h : IsIdentifier ident) :
    positionOf? ps.names ident = ps.indexOf? (String.ofList ident) := by
  rw [positionOf?_names hnamed, indexOf?]
  cases hk : ps.toList.findIdx? fun p => p.name.any (nameFits ident) with
  | none =>
    symm
    apply List.findIdx?_eq_none_iff.2
    intro p hp
    have hno := List.findIdx?_eq_none_iff.1 hk p hp
    by_contra hcalled
    rw [any_nameFits_of_isCalled h (by simpa using hcalled)] at hno
    cases hno
  | some k =>
    obtain ⟨hlt, hfits, hfirst⟩ := List.findIdx?_eq_some_iff_getElem.1 hk
    have hnone : ∀ j (hj : j < k), ps.toList[j].isCalled (String.ofList ident) ≠ true :=
      fun j hj hcalled => hfirst j hj (any_nameFits_of_isCalled h hcalled)
    symm
    apply List.findIdx?_eq_some_iff_getElem.2
    refine ⟨hlt, ?_, hnone⟩
    rcases isCalled_or_of_any_nameFits h hfits with hcalled | ⟨name, rest, hname, hat, hrest⟩
    · exact hcalled
    · -- A parameter that hides this one would fit before it.
      obtain ⟨i, hi, q, hq, hcalled⟩ := hhidden k ps.toList[k] name rest
        (List.getElem?_eq_getElem hlt) hname hat (h.of_eqIgnoreCase hrest)
      have hq := (List.getElem?_eq_some_iff.1 hq).2
      rw [isCalled_congr h hrest, ← hq] at hcalled
      exact absurd hcalled (hnone i hi)

/-- If an identifier means the parameter whose name fits first, a parameter whose name is that identifier
behind an at sign comes after one that is meant. -/
theorem exists_isCalled_of_positionOf?_eq {ps : Parameters}
    (hnamed : ∀ p ∈ ps.toList, p.name.isSome = true) {j : Nat} {p : Parameter} {name : String}
    {ident : List Char} (hp : ps.toList[j]? = some p) (hname : p.name = some name)
    (hat : name.toList = '@' :: ident) (h : IsIdentifier ident)
    (heq : positionOf? ps.names ident = ps.indexOf? (String.ofList ident)) :
    ∃ i < j, ∃ q, ps.toList[i]? = some q ∧ q.isCalled (String.ofList ident) = true := by
  obtain ⟨hj, rfl⟩ := List.getElem?_eq_some_iff.1 hp
  -- The name fits and is not meant, so that the first parameter that fits, which is meant, comes before.
  have hfits : ps.toList[j].name.any (nameFits ident) = true := by
    rw [hname, Option.any_some]
    exact (nameFits_cases h name).2 (.inr ⟨ident, hat, eqIgnoreCase_refl ident⟩)
  have hcalled : ps.toList[j].isCalled (String.ofList ident) = false := by
    rw [isCalled_ofList h, hname, Option.any_some, hat]
    simp [eqIgnoreCase, foldCase]
  rw [positionOf?_names hnamed] at heq
  cases hk : ps.toList.findIdx? fun p => p.name.any (nameFits ident) with
  | none =>
    have hno := List.findIdx?_eq_none_iff.1 hk ps.toList[j] (List.getElem_mem hj)
    rw [hfits] at hno
    cases hno
  | some k =>
    obtain ⟨hlt, -, hfirst⟩ := List.findIdx?_eq_some_iff_getElem.1 hk
    rw [hk] at heq
    obtain ⟨_, hmeant, -⟩ := List.findIdx?_eq_some_iff_getElem.1 heq.symm
    have hle : k ≤ j := by
      by_contra hgt
      exact hfirst j (by omega) hfits
    have hne : k ≠ j := by
      rintro rfl
      rw [hcalled] at hmeant
      cases hmeant
    exact ⟨k, by omega, ps.toList[k], List.getElem?_eq_getElem hlt, hmeant⟩

/-! ## Texts -/

/-- A text that is one placeholder. -/
theorem segments_placeholder {ident : List Char} (h : IsIdentifier ident) :
    segments ('@' :: ident) = [.placeholder ident] := by
  have hfirst : ReadFirst [] (.placeholder ident) [] := readFirst_placeholder rfl h rfl
  have hsegments := segmentsAfter_of_readFirst hfirst
  rwa [List.append_nil, segmentsAfter_nil] at hsegments

/-- Placeholders of different numbers are different. -/
theorem positional_injective {j k : Nat} (h : positional j = positional k) : j = k := by
  have hdigits := congrArg ofDigits (List.cons.inj h).2
  rw [ofDigits_digits, ofDigits_digits] at hdigits
  omega

/-- Numbering and looking up make the same of a placeholder only if they find the same position. -/
theorem rewrite_eq_lookedUp_iff {ps : Parameters} {ident : List Char} :
    (Segment.placeholder ident).rewrite ps.names = ps.lookedUp (.placeholder ident) ↔
      positionOf? ps.names ident = ps.indexOf? (String.ofList ident) := by
  rw [Segment.rewrite, lookedUp]
  cases positionOf? ps.names ident with
  | none => cases ps.indexOf? (String.ofList ident) <;> simp [positional]
  | some j =>
    cases ps.indexOf? (String.ofList ident) with
    | none => simp [positional]
    | some k =>
      constructor
      · intro h
        rw [positional_injective h]
      · intro h
        rw [Option.some.inj h]

/-- The identifiers of the placeholders of a text. -/
theorem isIdentifier_of_mem_segmentsAfter {before cs ident : List Char}
    (h : .placeholder ident ∈ segmentsAfter before cs) : IsIdentifier ident := by
  fun_induction segmentsAfter before cs with
  | case1 => cases h
  | case2 before c cs next ih =>
    rcases List.mem_cons.1 h with hnext | hmore
    · have hstep : nextSegment before c cs = (.placeholder ident, next.2) := by rw [hnext]
      exact (isIdentifier_of_nextSegment hstep).1
    · exact ih hmore

/-- If the names with an at sign are hidden, a text is numbered as its placeholders are looked up. -/
theorem AtSignsHidden.toList_rewrite {ps : Parameters} (hhidden : ps.AtSignsHidden)
    (hnamed : ∀ p ∈ ps.toList, p.name.isSome = true) (sql : String) :
    (rewrite ps.names sql).toList = (segments sql.toList).flatMap ps.lookedUp := by
  rw [rewrite, String.toList_ofList, rewriteChars]
  apply List.flatMap_congr
  intro s hs
  cases s with
  | verbatim text => rfl
  | placeholder ident =>
    apply rewrite_eq_lookedUp_iff.2
    exact hhidden.positionOf?_eq hnamed (isIdentifier_of_mem_segmentsAfter hs)

/-! ## Values -/

/-- The value that is handed over for a position is that of the parameter there. -/
theorem getElem?_bindings {ps : Parameters} {oids : List Oid} {k : Nat} {p : Parameter} {oid : Oid}
    (hp : ps.toList[k]? = some p) (hoid : oids[k]? = some oid) :
    (ps.bindings oids)[k]? = some (p.value, oid) := by
  apply List.getElem?_zip_eq_some.2
  exact ⟨by rw [List.getElem?_map, hp, Option.map_some], hoid⟩

/-- A value that is set by name is that of the parameter at the position that the name is found at. -/
theorem getElem?_setValue {ps : Parameters} {name : String} {k : Nat} (h : ps.indexOf? name = some k)
    (v : Value) : ∃ p, (ps.setValue name v).toList[k]? = some p ∧ p.value = v := by
  obtain ⟨p, hp, -⟩ := get?_of_indexOf? h
  refine ⟨p.withValue v, ?_, rfl⟩
  rw [setValue, h]
  simp [hp]

/-- Numbering the placeholders of every text agrees with looking them up exactly if the names with an at
sign are hidden. The text of a plan then has the number of a parameter where the look-up finds that
parameter, and the value handed over for the number is that of the parameter that is found, also after it
has been set by the name. -/
theorem placeholders_looked_up {ps : Parameters} (hnamed : ∀ p ∈ ps.toList, p.name.isSome = true) :
    ((∀ sql : String, (rewrite ps.names sql).toList = (segments sql.toList).flatMap ps.lookedUp)
        ↔ ps.AtSignsHidden) ∧
      (ps.AtSignsHidden → ∀ (sql : String) (plan : Plan), Plan.of sql ps = .ok plan →
        plan.sql.toList = (segments sql.toList).flatMap ps.lookedUp ∧
          ∀ (name : String) (k : Nat), ps.indexOf? name = some k →
            ∃ p oid, ps.get? name = some p ∧ (ps.bindings plan.oids)[k]? = some (p.value, oid) ∧
              ∀ v, ((ps.setValue name v).bindings plan.oids)[k]? = some (v, oid)) := by
  refine ⟨⟨fun h => ?_, fun hhidden => hhidden.toList_rewrite hnamed⟩, fun hhidden sql plan hplan => ?_⟩
  · intro j p name ident hp hname hat hident
    have htext := h (String.ofList ('@' :: ident))
    rw [rewrite, String.toList_ofList, String.toList_ofList, rewriteChars, segments_placeholder hident,
      List.flatMap_singleton, List.flatMap_singleton] at htext
    exact exists_isCalled_of_positionOf?_eq hnamed hp hname hat hident (rewrite_eq_lookedUp_iff.1 htext)
  · obtain ⟨hsql, -⟩ := Plan.of_sql hnamed hplan
    refine ⟨by rw [hsql]; exact hhidden.toList_rewrite hnamed sql, fun name k hk => ?_⟩
    obtain ⟨p, hp, hget⟩ := get?_of_indexOf? hk
    have hlt : k < plan.oids.length := by
      rw [(Plan.fits_of hplan).length_oids]
      exact (List.getElem?_eq_some_iff.1 hp).1
    refine ⟨p, plan.oids[k], hget, getElem?_bindings hp (List.getElem?_eq_getElem hlt), fun v => ?_⟩
    obtain ⟨p', hp', rfl⟩ := getElem?_setValue hk v
    exact getElem?_bindings hp' (List.getElem?_eq_getElem hlt)

/-- Parameters one of which keeps an at sign in its name, behind one that its identifier means. -/
theorem placeholders_looked_up_hidden :
    let ps : Parameters := ⟨[.named "@Id" (.int4 7), .named "x" (.text "a"), .named "@@X" (.int4 1)]⟩
    (∀ p ∈ ps.toList, p.name.isSome = true) ∧ ps.AtSignsHidden ∧
      Plan.of "select @id, @X" ps
        = .ok ⟨"select $1, $2", [.scalar .integer, .scalar .text, .scalar .integer], [23, 25, 23]⟩ ∧
      (∀ sql : String, (rewrite ps.names sql).toList = (segments sql.toList).flatMap ps.lookedUp) := by
  intro ps
  have hnamed : ∀ p ∈ ps.toList, p.name.isSome = true := by decide
  have hplan : Plan.of "select @id, @X" ps
      = .ok ⟨"select $1, $2", [.scalar .integer, .scalar .text, .scalar .integer], [23, 25, 23]⟩ := by
    cbv
  have hhidden : ps.AtSignsHidden := by
    intro j p name ident hp hname hat hident
    rcases j with _ | _ | _ | j
    · obtain rfl : Parameter.named "@Id" (.int4 7) = p := by simpa [ps] using hp
      obtain rfl : "Id" = name := by simpa [Parameter.named, bareName] using hname
      simp at hat
    · obtain rfl : Parameter.named "x" (.text "a") = p := by simpa [ps] using hp
      obtain rfl : "x" = name := by simpa [Parameter.named, bareName] using hname
      simp at hat
    · obtain rfl : Parameter.named "@@X" (.int4 1) = p := by simpa [ps] using hp
      obtain rfl : "@X" = name := by simpa [Parameter.named, bareName] using hname
      obtain rfl : ['X'] = ident := by simpa using hat
      exact ⟨1, by omega, .named "x" (.text "a"), rfl, by decide +kernel⟩
    · simp [ps] at hp
  exact ⟨hnamed, hhidden, hplan, (placeholders_looked_up hnamed).1.2 hhidden⟩

/-- A parameter that is given with two at signs is numbered where the look-up finds none. -/
theorem placeholder_numbered_not_found :
    let ps : Parameters := ⟨[.named "@@x" (.int4 1)]⟩
    ps.indexOf? "x" = none ∧ Plan.of "select @x" ps = .ok ⟨"select $1", [.scalar .integer], [23]⟩ := by
  intro ps
  have hplan : Plan.of "select @x" ps = .ok ⟨"select $1", [.scalar .integer], [23]⟩ := by cbv
  exact ⟨by decide +kernel, hplan⟩

end Parameters

end InProcessSql
