import Mathlib

/-!
# Lists mapped by a fallible function

A fallible function maps a list if it succeeds on every element, and the results then correspond to the
elements one by one. Otherwise mapping ends with the failure of the first element that fails.
-/

namespace InProcessSql

variable {α β ε : Type}

/-- Going on with a result succeeds only if there is one. -/
theorem bind_eq_ok_iff {x : Except ε α} {f : α → Except ε β} {b : β} :
    x >>= f = .ok b ↔ ∃ a, x = .ok a ∧ f a = .ok b := by
  cases x with
  | error e => simp [bind, Except.bind]
  | ok a => simp [bind, Except.bind]

/-- What is made of a result is made of one that there is. -/
theorem map_eq_ok_iff {x : Except ε α} {f : α → β} {b : β} : x.map f = .ok b ↔ ∃ a, x = .ok a ∧ f a = b := by
  cases x with
  | error e => exact iff_of_false nofun nofun
  | ok a => simp only [Except.map, Except.ok.injEq, exists_eq_left']

/-- Renaming its failures leaves a result as it is. -/
theorem mapError_eq_ok_iff {ε' : Type} {x : Except ε α} {f : ε → ε'} {a : α} :
    x.mapError f = .ok a ↔ x = .ok a := by
  cases x with
  | error e => exact iff_of_false nofun nofun
  | ok b => simp only [Except.mapError, Except.ok.injEq]

/-- A list is mapped to the results of its elements, in order. -/
theorem mapM_eq_ok_iff {f : α → Except ε β} {as : List α} {bs : List β} :
    as.mapM f = .ok bs ↔ List.Forall₂ (fun a b => f a = .ok b) as bs := by
  induction as generalizing bs with
  | nil =>
    rw [List.forall₂_nil_left_iff]
    exact ⟨fun h => (Except.ok.inj h).symm, fun h => congrArg Except.ok h.symm⟩
  | cons a as ih =>
    rw [List.mapM_cons, bind_eq_ok_iff, List.forall₂_cons_left_iff]
    simp only [bind_eq_ok_iff, ih]
    constructor
    · rintro ⟨b, hb, rest, hrest, h⟩
      exact ⟨b, rest, hb, hrest, (Except.ok.inj h).symm⟩
    · rintro ⟨b, rest, hb, hrest, rfl⟩
      exact ⟨b, hb, rest, hrest, rfl⟩

/-- Each element of a mapped list is the result of an element. -/
theorem exists_of_mem_mapM {f : α → Except ε β} {as : List α} {bs : List β} {b : β} (h : as.mapM f = .ok bs)
    (hb : b ∈ bs) : ∃ a ∈ as, f a = .ok b := by
  have hresults := mapM_eq_ok_iff.1 h
  clear h
  induction hresults with
  | nil => cases hb
  | cons hfirst _ ih =>
    cases hb with
    | head => exact ⟨_, List.mem_cons_self, hfirst⟩
    | tail _ hb =>
      obtain ⟨a, ha, hresult⟩ := ih hb
      exact ⟨a, List.mem_cons_of_mem _ ha, hresult⟩

/-- A list is mapped if each of its elements has a result. -/
theorem exists_mapM_eq_ok_iff {f : α → Except ε β} {as : List α} :
    (∃ bs, as.mapM f = .ok bs) ↔ ∀ a ∈ as, ∃ b, f a = .ok b := by
  simp only [mapM_eq_ok_iff]
  induction as with
  | nil => simp
  | cons a as ih =>
    rw [List.forall_mem_cons, ← ih]
    constructor
    · rintro ⟨bs, h⟩
      obtain ⟨b, rest, hb, hrest, -⟩ := List.forall₂_cons_left_iff.1 h
      exact ⟨⟨b, hb⟩, rest, hrest⟩
    · rintro ⟨⟨b, hb⟩, rest, hrest⟩
      exact ⟨b :: rest, .cons hb hrest⟩

/-- A list is mapped, unless an element fails; the first one that does fails the list. -/
theorem exists_mapM_cases (f : α → Except ε β) (as : List α) :
    (∃ bs, as.mapM f = .ok bs) ∨
      ∃ before a after e, as = before ++ a :: after ∧ (∀ x ∈ before, ∃ b, f x = .ok b) ∧
        f a = .error e ∧ as.mapM f = .error e := by
  induction as with
  | nil => exact .inl ⟨[], rfl⟩
  | cons a as ih =>
    rw [List.mapM_cons]
    cases ha : f a with
    | error e => exact .inr ⟨[], a, as, e, rfl, nofun, ha, rfl⟩
    | ok b =>
      obtain ⟨bs, h⟩ | ⟨before, x, after, e, hsplit, hbefore, hx, h⟩ := ih
      · refine .inl ⟨b :: bs, ?_⟩
        rw [h]
        rfl
      · refine .inr ⟨a :: before, x, after, e, ?_, List.forall_mem_cons.2 ⟨⟨b, ha⟩, hbefore⟩, hx, ?_⟩
        · rw [hsplit, List.cons_append]
        · rw [h]
          rfl

/-- Mapping a list fails exactly as the first of its elements that fails. -/
theorem mapM_eq_error_iff {f : α → Except ε β} {as : List α} {e : ε} :
    as.mapM f = .error e ↔ ∃ before a after, as = before ++ a :: after ∧
      (∀ x ∈ before, ∃ b, f x = .ok b) ∧ f a = .error e := by
  constructor
  · intro h
    obtain ⟨bs, hbs⟩ | ⟨before, a, after, e', hsplit, hbefore, ha, he'⟩ := exists_mapM_cases f as
    · rw [hbs] at h
      cases h
    · obtain rfl : e' = e := Except.error.inj (he'.symm.trans h)
      exact ⟨before, a, after, hsplit, hbefore, ha⟩
  · rintro ⟨before, a, after, rfl, hbefore, ha⟩
    induction before with
    | nil =>
      rw [List.nil_append, List.mapM_cons, ha]
      rfl
    | cons x before ih =>
      obtain ⟨⟨b, hb⟩, hrest⟩ := List.forall_mem_cons.1 hbefore
      rw [List.cons_append, List.mapM_cons, hb, ih hrest]
      rfl

end InProcessSql
