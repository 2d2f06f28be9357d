import InProcessSql.Proofs.Executions

/-!
# Relations that readers respect

A relation between states of an executor is respected by everything that a reader does with an open cursor if each
single operation on the cursor respects it.
-/

namespace InProcessSql

variable {σ : Type} {R : σ → σ → Prop}

/-- What an operation leads to, if its outcome is known. -/
theorem rel_of_eq {α : Type} {s t : σ} {x : α × σ} {a : α} (h : R s x.2) (hx : x = (a, t)) : R s t := by
  rwa [hx] at h

variable [Executor σ]

/-- Each operation on an open cursor leads to a related state, and so does one after the other. -/
structure RowsRespect (R : σ → σ → Prop) : Prop where
  refl : ∀ s : σ, R s s
  trans : ∀ {s t u : σ}, R s t → R t u → R s u
  fetch : ∀ (cursor : Executor.Cursor σ) (s : σ), R s (Executor.fetch cursor s).2
  dimensions : ∀ s : σ, R s (Executor.dimensions s).2
  columns : ∀ (count : Nat) (s : σ), R s (Executor.columns count s).2
  currentRow : ∀ (places : List (Executor.Place σ)) (s : σ), R s (Executor.currentRow places s).2
  readDatum : ∀ (datum : Executor.Datum σ) (oid : Oid) (s : σ), R s (Executor.readDatum datum oid s).2
  finish : ∀ s : σ, R s (Executor.finish s)

namespace RowsRespect

/-- Fetching a row respects the relation, however it ends. -/
theorem fetching (h : RowsRespect R) {cursor : Executor.Cursor σ} {known : Option Columns}
    {previous : Option (List (Executor.Place σ))} {s t : σ}
    {result : Except Error (Option (Columns × List (Executor.Place σ)))}
    (hfetching : Reader.Fetching cursor known previous s result t) : R s t := by
  cases hfetching with
  | fetchFailed hfetch => exact rel_of_eq (h.fetch _ _) hfetch
  | noRow hfetch hsize =>
    exact h.trans (rel_of_eq (h.fetch _ _) hfetch) (rel_of_eq (h.dimensions _) hsize)
  | columnsFailed hfetch hsize hknown hcolumns =>
    have hfetched := h.trans (rel_of_eq (h.fetch _ _) hfetch) (rel_of_eq (h.dimensions _) hsize)
    exact h.trans hfetched (rel_of_eq (h.columns _ _) hcolumns)
  | firstRow hfetch hsize hknown hcolumns hrow =>
    have hfetched := h.trans (rel_of_eq (h.fetch _ _) hfetch) (rel_of_eq (h.dimensions _) hsize)
    have hasked := h.trans hfetched (rel_of_eq (h.columns _ _) hcolumns)
    exact h.trans hasked (rel_of_eq (h.currentRow _ _) hrow)
  | laterRow hfetch hsize hknown hrow =>
    have hfetched := h.trans (rel_of_eq (h.fetch _ _) hfetch) (rel_of_eq (h.dimensions _) hsize)
    exact h.trans hfetched (rel_of_eq (h.currentRow _ _) hrow)

/-- Moving a reader respects the relation. -/
theorem read (h : RowsRespect R) (r : Reader σ) (c : Connection σ) :
    R c.executor (r.read c).2.2.executor := by
  rcases r.read_cases c with ⟨-, hread⟩ | ⟨statement, cursor, row, -, hread⟩
  · rw [hread]
    exact h.refl c.executor
  · have hfetched := h.fetching (Reader.fetching_fetchRow cursor r.columns row c)
    rcases hread with ⟨cs, next, c', hfetch, hread⟩ | ⟨c', hfetch, hread⟩ | ⟨e, c', hfetch, hread⟩
    · rw [hread]
      rwa [hfetch] at hfetched
    · rw [hread]
      rw [hfetch] at hfetched
      exact h.trans hfetched (h.finish c'.executor)
    · rw [hread]
      rw [hfetch] at hfetched
      exact h.trans hfetched (h.finish c'.executor)

/-- Closing a reader respects the relation. -/
theorem close (h : RowsRespect R) (r : Reader σ) (c : Connection σ) :
    R c.executor (r.close c).2.executor := by
  by_cases hactive : r.IsActive
  · rw [Reader.close_of_isActive hactive]
    exact h.finish c.executor
  · rw [Reader.close_of_not_isActive hactive]
    exact h.refl c.executor

/-- Giving a reader up respects the relation. -/
theorem dispose (h : RowsRespect R) (r : Reader σ) (c : Connection σ) :
    R c.executor (r.dispose c).executor := by
  by_cases hactive : r.IsActive
  · rw [Reader.dispose_of_isActive hactive]
    exact h.finish c.executor
  · rw [Reader.dispose_of_not_isActive hactive]
    exact h.refl c.executor

/-- Looking at a value respects the relation. -/
theorem value (h : RowsRespect R) (r : Reader σ) (i : Nat) (c : Connection σ) :
    R c.executor (r.value i c).2.executor := by
  rcases r.executor_value_cases i c with hvalue | ⟨datum, oid, hvalue⟩
  · rw [hvalue]
    exact h.refl c.executor
  · rw [hvalue]
    exact h.readDatum datum oid c.executor

/-- Looking at any number of values respects the relation. -/
theorem looked (h : RowsRespect R) {r : Reader σ} {c c' : Connection σ} (hlooked : Reader.Looked r c c') :
    R c.executor c'.executor := by
  induction hlooked with
  | none => exact h.refl c.executor
  | value hlooked i ih => exact h.trans ih (h.value r i _)

/-- Any one request respects the relation. -/
theorem answer (h : RowsRespect R) (r : Reader σ) (c : Connection σ) (request : ReaderRequest) :
    R c.executor (r.answer c request).2.2.executor := by
  rcases r.answer_cases c request with ⟨-, hread⟩ | ⟨-, hclose⟩ | ⟨-, reply, c', hlook, hlooked⟩
  · rw [hread]
    exact h.read r c
  · rw [hclose]
    exact h.close r c
  · rw [hlook]
    exact h.looked hlooked

/-- All requests to a reader respect the relation. -/
theorem answerAll (h : RowsRespect R) (r : Reader σ) (c : Connection σ) (requests : List ReaderRequest) :
    R c.executor (r.answerAll c requests).2.2.executor := by
  induction requests generalizing r c with
  | nil => exact h.refl c.executor
  | cons request rest ih => exact h.trans (h.answer r c request) (ih _ _)

/-- Taking the first value of a reader respects the relation. -/
theorem firstValue (h : RowsRespect R) (r : Reader σ) (c : Connection σ) :
    R c.executor (Command.firstValue r c).2.executor := by
  have hread := h.read r c
  rw [Command.firstValue]
  rcases hmoved : r.read c with ⟨_ | _ | _, r', c'⟩
  · rw [hmoved] at hread
    exact h.trans hread (h.dispose r' c')
  · rw [hmoved] at hread
    exact h.trans hread (h.close r' c')
  · rw [hmoved] at hread
    have hvalue := h.trans hread (h.value r' 0 c')
    simp only
    rcases htold : r'.value 0 c' with ⟨_ | v, c''⟩
    · rw [htold] at hvalue
      exact h.trans hvalue (h.dispose r' c'')
    · rw [htold] at hvalue
      exact h.trans hvalue (h.close r' c'')

end RowsRespect

end InProcessSql
