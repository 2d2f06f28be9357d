import Mathlib
import InProcessSql.Executor.Scripted

/-!
# Places and the values behind them

The scripted executor numbers the values that it is given or hands out, and forgets none. `Scripted.Stands`
says that a place stands for a value; it stays so while the executor only takes in more values. Values are
written over places and handed over with parameters in the same way, each of them to a place that stands
for it.
-/

namespace InProcessSql.Scripted

/-! ## Places that stand for values -/

/-- The place stands for the value: a null for null, and otherwise the datum of the value. -/
structure Stands (s : Scripted) (v : Value) (p : Place) : Prop where
  isNull_eq : p.isNull = v.isNull
  valueOf?_eq : v.isNull = false → s.valueOf? p.datum = some v

/-- The second state differs from the first by more datums only. -/
def TakesIn (s t : Scripted) : Prop :=
  ∃ more, t = { s with datums := s.datums ++ more }

theorem TakesIn.refl (s : Scripted) : TakesIn s s :=
  ⟨[], by rw [List.append_nil]⟩

/-- Values are taken in one after the other. -/
theorem TakesIn.trans {s t u : Scripted} (h : TakesIn s t) (h' : TakesIn t u) : TakesIn s u := by
  obtain ⟨more, rfl⟩ := h
  obtain ⟨more', rfl⟩ := h'
  exact ⟨more ++ more', by rw [List.append_assoc]⟩

/-- A datum stands for the same value after more values have been taken in. -/
theorem TakesIn.valueOf?_eq {s t : Scripted} (h : TakesIn s t) {d : Nat} {v : Value}
    (hv : s.valueOf? d = some v) : t.valueOf? d = some v := by
  obtain ⟨more, rfl⟩ := h
  rw [valueOf?] at hv ⊢
  by_cases hzero : d = 0
  · rw [if_pos hzero] at hv
    cases hv
  · rw [if_neg hzero] at hv ⊢
    rw [List.getElem?_append_left (List.getElem?_eq_some_iff.1 hv).1]
    exact hv

/-- Places stand for their values whatever is taken in later. -/
theorem Stands.takesIn {s t : Scripted} {v : Value} {p : Place} (h : Stands s v p) (ht : TakesIn s t) :
    Stands t v p :=
  ⟨h.isNull_eq, fun hnull => ht.valueOf?_eq (h.valueOf?_eq hnull)⟩

/-- A place that stands for a value has it. -/
theorem Stands.placeValue_eq {s : Scripted} {v : Value} {p : Place} (h : Stands s v p) :
    s.placeValue p = v := by
  rw [placeValue, h.isNull_eq]
  cases hnull : v.isNull with
  | true => exact (Value.isNull_iff.1 hnull).symm
  | false =>
    rw [h.valueOf?_eq hnull]
    rfl

/-- The values in places are those that the places stand for. -/
theorem map_placeValue_eq {s : Scripted} {vs : List Value} {places : List Place}
    (h : List.Forall₂ (Stands s) vs places) : places.map s.placeValue = vs := by
  induction h with
  | nil => rfl
  | cons hstands hrest ih => rw [List.map_cons, hstands.placeValue_eq, ih]

/-! ## Writing over places -/

theorem takesIn_storePlace (v : Value) (s : Scripted) : TakesIn s (storePlace v s).2 := by
  rw [storePlace]
  split
  · exact .refl s
  · exact ⟨[v], rfl⟩

/-- A stored value is what its place stands for. -/
theorem stands_storePlace (v : Value) (s : Scripted) :
    Stands (storePlace v s).2 v (storePlace v s).1 := by
  rw [storePlace]
  split
  · rename_i hnull
    refine ⟨hnull.symm, fun h => ?_⟩
    rw [hnull] at h
    cases h
  · rename_i hnull
    refine ⟨(Bool.eq_false_iff.2 hnull).symm, fun _ => ?_⟩
    simp [store, valueOf?]

theorem takesIn_fillPlaces (vs : List Value) (places : List Place) (s : Scripted) :
    TakesIn s (fillPlaces vs places s).2 := by
  induction vs generalizing places s with
  | nil => exact .refl s
  | cons v vs ih =>
    cases places with
    | nil => exact .refl s
    | cons place places => exact (takesIn_storePlace v s).trans (ih places (storePlace v s).2)

/-- After values have been written over as many places, each place stands for its value. -/
theorem stands_fillPlaces {vs : List Value} {places : List Place} (h : vs.length = places.length)
    (s : Scripted) : List.Forall₂ (Stands (fillPlaces vs places s).2) vs (fillPlaces vs places s).1 := by
  induction vs generalizing places s with
  | nil =>
    obtain rfl := List.length_eq_zero_iff.1 h.symm
    exact .nil
  | cons v vs ih =>
    cases places with
    | nil => cases h
    | cons place places =>
      have htaken := takesIn_fillPlaces vs places (storePlace v s).2
      exact .cons ((stands_storePlace v s).takesIn htaken) (ih (Nat.succ.inj h) _)

/-! ## Handing values over -/

/-- A value is handed over to a place as it is written over one. -/
theorem bindPlace_eq (v : Value) (oid : Oid) (s : Scripted) :
    bindPlace v oid s = (.ok (storePlace v s).1, (storePlace v s).2) := by
  rw [bindPlace, storePlace]
  split <;> rfl

/-- Values are always handed over, and each place then stands for its value. -/
theorem exists_bindPlaces (bindings : List (Value × Oid)) (s : Scripted) :
    ∃ places t, bindPlaces bindings s = (.ok places, t) ∧ TakesIn s t ∧
      List.Forall₂ (Stands t) (bindings.map Prod.fst) places := by
  induction bindings generalizing s with
  | nil => exact ⟨[], s, rfl, .refl s, .nil⟩
  | cons binding rest ih =>
    obtain ⟨v, oid⟩ := binding
    obtain ⟨places, t, hrest, htaken, hstands⟩ := ih (storePlace v s).2
    refine ⟨(storePlace v s).1 :: places, t, ?_, (takesIn_storePlace v s).trans htaken,
      .cons ((stands_storePlace v s).takesIn htaken) hstands⟩
    rw [bindPlaces, Step.bind_of_ok (bindPlace_eq v oid s), Step.bind_of_ok hrest]
    rfl

/-- Binding values does not fail. -/
theorem bindPlaces_ne_error (bindings : List (Value × Oid)) (s t : Scripted) (e : Error) :
    bindPlaces bindings s ≠ (.error e, t) := by
  obtain ⟨places, u, hbound, -⟩ := exists_bindPlaces bindings s
  rw [hbound]
  exact nofun

end InProcessSql.Scripted
