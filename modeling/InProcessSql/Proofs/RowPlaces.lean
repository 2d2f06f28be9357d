import InProcessSql.Proofs.RowDelivery
import InProcessSql.Proofs.RespectedRelations

/-!
# Places of the current row

The places of a row are blank at first, and then hold what the scripted executor writes over them. `Scripted.OfPlaces`
is for properties of places that come about in this way and are not lost while values are taken in, and
`Scripted.RowHas.answerAll` says that a reader whose row has such a property has it after any requests.
-/

namespace InProcessSql

/-! ## Places and values -/

variable {σ : Type} [Executor σ]

/-- A datum is read on the connection as the executor reads it. -/
theorem Connection.fst_readDatum (datum : Executor.Datum σ) (oid : Oid) (c : Connection σ) :
    (readDatum datum oid c).1 = (Executor.readDatum datum oid c.executor).1.result oid := by
  simp only [readDatum, onExecutor]
  rcases Executor.readDatum datum oid c.executor with ⟨_ | _, s⟩ <;> rfl

namespace Reader

/-- The places of values are those of the current row. -/
theorem exists_row_of_place {r : Reader σ} {i : Nat} {p : Executor.Place σ} (h : r.place i = .ok p) :
    ∃ row, r.row? = some row ∧ p ∈ row := by
  rw [place] at h
  cases hfound : r.row?.bind fun row => row[i]? with
  | none =>
    rw [hfound] at h
    cases h
  | some q =>
    rw [hfound] at h
    cases h
    obtain ⟨row, hrow, hi⟩ := Option.bind_eq_some_iff.1 hfound
    exact ⟨row, hrow, List.mem_of_getElem? hi⟩

/-- A value is not there, is null by the flag of its place, or is read from its datum, whatever the connection. -/
theorem value_cases (r : Reader σ) (i : Nat) :
    (∃ e, r.value i = Step.fail e) ∨ r.value i = Step.ret .null ∨
      ∃ datum oid, r.value i = Connection.readDatum datum oid := by
  unfold value
  cases r.column i with
  | error e => exact .inl ⟨e, rfl⟩
  | ok column =>
    cases r.place i with
    | error e => exact .inl ⟨e, rfl⟩
    | ok place =>
      cases hnull : place.isNull with
      | true => exact .inr (.inl (by simp only [hnull, if_true]))
      | false => exact .inr (.inr ⟨place.datum, column.oid, by simp only [hnull, Bool.false_eq_true, if_false]⟩)

end Reader

/-- Reading datums leaves it as it is what datums are read as. -/
def Executor.RepeatsReadings (σ : Type) [Executor σ] : Prop :=
  ∀ (datum datum' : Executor.Datum σ) (oid oid' : Oid) (s : σ),
    (Executor.readDatum datum oid (Executor.readDatum datum' oid' s).2).1 = (Executor.readDatum datum oid s).1

/-- On an executor that repeats its readings, telling values leaves all values as they are. -/
theorem Reader.fst_value_of_looked (h : Executor.RepeatsReadings σ) {r : Reader σ} {c c' : Connection σ}
    (hlooked : Looked r c c') (i : Nat) : (r.value i c').1 = (r.value i c).1 := by
  have hread : ∀ datum oid,
      (Executor.readDatum datum oid c'.executor).1 = (Executor.readDatum datum oid c.executor).1 := by
    induction hlooked with
    | none => exact fun _ _ => rfl
    | @value c' hlooked i ih =>
      intro datum oid
      rcases r.executor_value_cases i c' with hvalue | ⟨datum', oid', hvalue⟩
      · rw [hvalue]
        exact ih datum oid
      · rw [hvalue]
        exact (h datum datum' oid oid' c'.executor).trans (ih datum oid)
  rcases r.value_cases i with ⟨e, hvalue⟩ | hvalue | ⟨datum, oid, hvalue⟩ <;> rw [hvalue]
  · rfl
  · rfl
  · rw [Connection.fst_readDatum, Connection.fst_readDatum, hread]

namespace Scripted

open Reader

/-- Telling values changes nothing on the connection. -/
theorem eq_of_looked {r : Reader Scripted} {c c' : Connection Scripted} (h : Looked r c c') : c' = c := by
  have hread : ∀ datum oid, (@Connection.readDatum Scripted _ datum oid c).2 = c := by
    intro datum oid
    have hdatum : ∃ value, Executor.readDatum datum oid c.executor = (.value value, c.executor) := by
      show ∃ value, readDatum datum oid c.executor = _
      rw [readDatum]
      split <;> exact ⟨_, rfl⟩
    obtain ⟨value, hdatum⟩ := hdatum
    simp only [Connection.readDatum, Connection.onExecutor, hdatum]
  induction h with
  | none => rfl
  | @value c' hlooked i ih =>
    subst ih
    rcases r.value_cases i with ⟨e, hvalue⟩ | hvalue | ⟨datum, oid, hvalue⟩ <;> rw [hvalue]
    · rfl
    · rfl
    · exact hread datum oid

/-! ## Values that are taken in -/

/-- The second state has the values of the first, and has taken in others that are not null. -/
def GainsValues (s t : Scripted) : Prop := ∃ more, t.datums = s.datums ++ more ∧ ∀ v ∈ more, v ≠ .null

theorem GainsValues.of_eq {s t : Scripted} (h : t.datums = s.datums) : GainsValues s t :=
  ⟨[], by rw [h, List.append_nil], nofun⟩

/-- Values are gained one after the other. -/
theorem GainsValues.trans {s t u : Scripted} (h : GainsValues s t) (h' : GainsValues t u) : GainsValues s u := by
  obtain ⟨more, hmore, hne⟩ := h
  obtain ⟨more', hmore', hne'⟩ := h'
  refine ⟨more ++ more', by rw [hmore', hmore, List.append_assoc], fun v hv => ?_⟩
  exact (List.mem_append.1 hv).elim (hne v) (hne' v)

/-- Storing a value gains it, unless it is null. -/
theorem gainsValues_storePlace (v : Value) (s : Scripted) : GainsValues s (storePlace v s).2 := by
  rw [storePlace]
  split
  · exact .of_eq rfl
  · rename_i hnull
    exact ⟨[v], rfl, List.forall_mem_singleton.2 (mt Value.isNull_iff.2 hnull)⟩

/-- Writing values over places gains those that are not null. -/
theorem gainsValues_fillPlaces (vs : List Value) (places : List Place) (s : Scripted) :
    GainsValues s (fillPlaces vs places s).2 := by
  induction vs generalizing places s with
  | nil => exact .of_eq rfl
  | cons v vs ih =>
    cases places with
    | nil => exact .of_eq rfl
    | cons place places => exact (gainsValues_storePlace v s).trans (ih places (storePlace v s).2)

/-- A fetch gains no value. -/
theorem gainsValues_fetch (cursor : Cursor) (s : Scripted) : GainsValues s (fetch cursor s).2 := by
  rw [fetch_eq]
  cases hwaiting : s.waiting? .fetch with
  | some f =>
    rw [guarded_of_some hwaiting]
    exact .of_eq rfl
  | none =>
    rw [guarded_of_none hwaiting, moveCursor]
    split
    · split <;> exact .of_eq rfl
    · exact .of_eq rfl

/-- Readers take in no nulls. -/
theorem rowsRespect_gainsValues : RowsRespect GainsValues where
  refl s := .of_eq rfl
  trans := GainsValues.trans
  fetch := gainsValues_fetch
  dimensions s := .of_eq rfl
  columns count s := .of_eq rfl
  currentRow places s := by
    show GainsValues s (currentRow places s).2
    rw [currentRow]
    split
    · rename_i row _
      exact GainsValues.trans (.of_eq rfl) (gainsValues_fillPlaces row places (s.record .currentRow))
    · exact .of_eq rfl
  readDatum datum oid s := by
    have hsame := snd_readDatum datum oid s
    exact .of_eq (congrArg datums hsame)
  finish s := .of_eq rfl

/-! ## Properties of places -/

/-- A property that blank places have, that places get with the values written over them, and that they keep while
values are taken in. -/
structure OfPlaces (P : Scripted → Place → Prop) : Prop where
  blank : ∀ s, P s (@Executor.blankPlace Scripted _)
  stored : ∀ v s, P (storePlace v s).2 (storePlace v s).1
  kept : ∀ {s t : Scripted} {p : Place}, GainsValues s t → P s p → P t p

/-- All places of the current row have the property. -/
def RowHas (P : Scripted → Place → Prop) (r : Reader Scripted) (s : Scripted) : Prop :=
  ∀ row, r.row? = some row → ∀ p ∈ row, P s p

variable {P : Scripted → Place → Prop}

/-- A reader without a row has every property of places. -/
theorem rowHas_of_row? {r : Reader Scripted} {s : Scripted} (h : r.row? = none) : RowHas P r s := by
  intro row hrow
  rw [h] at hrow
  cases hrow

namespace OfPlaces

/-- Where there is no value to write, the place stays as it was. -/
theorem fillPlaces (hP : OfPlaces P) (vs : List Value) (places : List Place) (s : Scripted)
    (h : ∀ p ∈ places, P s p) : ∀ p ∈ (fillPlaces vs places s).1, P (fillPlaces vs places s).2 p := by
  induction vs generalizing places s with
  | nil => exact h
  | cons v vs ih =>
    cases places with
    | nil => exact h
    | cons place places =>
      have hrest : ∀ p ∈ places, P (storePlace v s).2 p := fun p hp =>
        hP.kept (gainsValues_storePlace v s) (h p (List.mem_cons_of_mem place hp))
      have hwritten := hP.kept (gainsValues_fillPlaces vs places (storePlace v s).2) (hP.stored v s)
      exact List.forall_mem_cons.2 ⟨hwritten, ih places (storePlace v s).2 hrest⟩

/-- The places of the current row have the property if those that it is written over do. -/
theorem currentRow (hP : OfPlaces P) (places : List Place) (s : Scripted) (h : ∀ p ∈ places, P s p) :
    ∀ p ∈ (currentRow places s).1, P (currentRow places s).2 p := by
  have hgains : GainsValues s (s.record .currentRow) := .of_eq rfl
  have hrecorded : ∀ p ∈ places, P (s.record .currentRow) p := fun p hp => hP.kept hgains (h p hp)
  rw [Scripted.currentRow]
  split
  · rename_i row _
    exact hP.fillPlaces row places (s.record .currentRow) hrecorded
  · exact hrecorded

/-- The places of a fetched row have the property, if those of the row before had it. -/
theorem fetching (hP : OfPlaces P) {cursor : Cursor} {known : Option Columns} {previous : Option (List Place)}
    {s t : Scripted} {cs : Columns} {row : List Place}
    (h : @Fetching Scripted _ cursor known previous s (.ok (some (cs, row))) t)
    (hprevious : ∀ places, previous = some places → ∀ p ∈ places, P s p) : ∀ p ∈ row, P t p := by
  -- The row is written over blank places or over the row before.
  have hplaces : ∀ (cs : Columns), ∀ p ∈ @placesFor Scripted _ previous cs, P s p := by
    intro cs p hp
    rw [placesFor] at hp
    cases hrow : previous with
    | none =>
      rw [hrow, Option.getD_none] at hp
      rw [List.eq_of_mem_replicate hp]
      exact hP.blank s
    | some places =>
      rw [hrow, Option.getD_some] at hp
      exact hprevious places hrow p hp
  have hwritten : ∀ {u : Scripted} {places row : List Place}, GainsValues s u → (∀ p ∈ places, P s p) →
      Scripted.currentRow places u = (row, t) → ∀ p ∈ row, P t p := by
    intro u places row hgains hplaces hrow
    have hhas := hP.currentRow places u fun p hp => hP.kept hgains (hplaces p hp)
    rwa [hrow] at hhas
  have hrespect := rowsRespect_gainsValues
  cases h with
  | firstRow hfetch hsize hknown hcolumns hrow =>
    have hfetched := rel_of_eq (hrespect.fetch _ _) hfetch
    have hsized := hfetched.trans (rel_of_eq (hrespect.dimensions _) hsize)
    exact hwritten (hsized.trans (rel_of_eq (hrespect.columns _ _) hcolumns)) (hplaces cs) hrow
  | laterRow hfetch hsize hknown hrow =>
    have hfetched := rel_of_eq (hrespect.fetch _ _) hfetch
    exact hwritten (hfetched.trans (rel_of_eq (hrespect.dimensions _) hsize)) (hplaces cs) hrow

end OfPlaces

/-! ## Readers -/

namespace RowHas

variable {r : Reader Scripted} {c : Connection Scripted}

/-- Moving keeps a property of the places of the row. -/
theorem read (hP : OfPlaces P) (h : RowHas P r c.executor) : RowHas P (r.read c).2.1 (r.read c).2.2.executor := by
  rcases r.read_cases c with ⟨-, hread⟩ | ⟨statement, cursor, row, hphase, hread⟩
  · rw [hread]
    exact h
  · have hfetching := fetching_fetchRow cursor r.columns row c
    rcases hread with ⟨cs, next, c', hfetch, hread⟩ | ⟨c', -, hread⟩ | ⟨e, c', -, hread⟩
    · rw [hread]
      rw [hfetch] at hfetching
      have hnext := hP.fetching hfetching fun places hplaces => h places (by rw [row?, hphase, hplaces])
      intro row' hrow'
      cases hrow'
      exact hnext
    · rw [hread]
      exact rowHas_of_row? rfl
    · rw [hread]
      exact rowHas_of_row? rfl

/-- Any one request keeps a property of the places of the row. -/
theorem answer (hP : OfPlaces P) (h : RowHas P r c.executor) (request : ReaderRequest) :
    RowHas P (r.answer c request).2.1 (r.answer c request).2.2.executor := by
  rcases r.answer_cases c request with ⟨-, hread⟩ | ⟨-, hclose⟩ | ⟨-, reply, c', hlook, hlooked⟩
  · rw [hread]
    exact h.read hP
  · rw [hclose]
    exact rowHas_of_row? (row?_of_not_isActive (not_isActive_close r c))
  · rw [hlook, executor_of_looked hlooked]
    exact h

/-- Any requests keep a property of the places of the row. -/
theorem answerAll (hP : OfPlaces P) (h : RowHas P r c.executor) (requests : List ReaderRequest) :
    RowHas P (r.answerAll c requests).2.1 (r.answerAll c requests).2.2.executor := by
  induction requests generalizing r c with
  | nil => exact h
  | cons request rest ih => exact ih (h.answer hP request)

end RowHas

/-- A reader that a command has delivered has no row yet. -/
theorem rowHas_of_executeReader {cmd cmd' : Command} {c c' : Connection Scripted} {r : Reader Scripted}
    (h : cmd.executeReader c = (.ok r, cmd', c')) : RowHas P r c'.executor := by
  rcases Command.reader_of_executeReader h with ⟨statement, cursor, rfl⟩ | ⟨n, s, rfl, -⟩
  · exact rowHas_of_row? rfl
  · exact rowHas_of_row? rfl

end Scripted

end InProcessSql
