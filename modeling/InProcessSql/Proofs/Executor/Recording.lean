import InProcessSql.Executor.Scripted

/-!
# What the scripted executor records

Every operation of the scripted executor records its call, also if it fails, and handing values over
records none. Only an instruction changes whether statements are accepted.
-/

namespace InProcessSql

namespace Scripted

/-- The second state is reached from the first by so many calls. -/
structure Records (calls : List Call) (s t : Scripted) : Prop where
  calls_eq : t.calls = s.calls ++ calls
  isReady_eq : t.isReady = s.isReady

theorem Records.refl (s : Scripted) : Records [] s s :=
  ⟨(List.append_nil s.calls).symm, rfl⟩

/-- Calls are recorded one after the other. -/
theorem Records.trans {earlier later : List Call} {s t u : Scripted} (h : Records earlier s t)
    (h' : Records later t u) : Records (earlier ++ later) s u := by
  refine ⟨?_, h'.isReady_eq.trans h.isReady_eq⟩
  rw [h'.calls_eq, h.calls_eq, List.append_assoc]

/-- What a step records, if its outcome is known. -/
theorem Records.of_eq {α : Type} {calls : List Call} {s t : Scripted} {x : α × Scripted} {a : α}
    (h : Records calls s x.2) (hx : x = (a, t)) : Records calls s t := by
  rwa [hx] at h

/-- A step that records calls goes on with one that records none. -/
theorem Records.bind {α β : Type} {calls : List Call} {x : Step Scripted Error α}
    {f : α → Step Scripted Error β} {s : Scripted} (hx : Records calls s (x s).2)
    (hf : ∀ a t, Records [] t (f a t).2) : Records calls s ((x >>= f) s).2 := by
  rw [Step.bind_apply]
  rcases hstep : x s with ⟨result, t⟩
  rw [hstep] at hx
  cases result with
  | error e => exact hx
  | ok a =>
    have hboth := hx.trans (hf a t)
    rwa [List.append_nil] at hboth

/-! ## Pieces of the operations -/

theorem records_record (call : Call) (s : Scripted) : Records [call] s (s.record call) := ⟨rfl, rfl⟩

/-- Using a failure up records no call. -/
theorem records_checkFailure (operation : Operation) (s : Scripted) :
    Records [] s (checkFailure operation s).2 := by
  rw [checkFailure]
  rcases takeFailure operation s.failures with ⟨_ | f, rest⟩
  · exact .refl s
  · exact ⟨(List.append_nil s.calls).symm, rfl⟩

theorem records_takeAffected (s : Scripted) : Records [] s s.takeAffected.2 := by
  rw [takeAffected]
  split
  · exact .refl s
  · exact ⟨(List.append_nil s.calls).symm, rfl⟩

theorem records_takeResult (s : Scripted) : Records [] s s.takeResult.2 :=
  ⟨(List.append_nil s.calls).symm, rfl⟩

/-- Moving a cursor records nothing beyond the call that asked for it. -/
theorem records_moveCursor (cursor : Cursor) (s : Scripted) : Records [] s (moveCursor cursor s).2 := by
  rw [moveCursor]
  split
  · split
    · exact ⟨(List.append_nil s.calls).symm, rfl⟩
    · exact .refl s
  · exact .refl s

theorem records_store (v : Value) (s : Scripted) : Records [] s (store v s).2 :=
  ⟨(List.append_nil s.calls).symm, rfl⟩

theorem records_storePlace (v : Value) (s : Scripted) : Records [] s (storePlace v s).2 := by
  rw [storePlace]
  split
  · exact .refl s
  · exact records_store v s

/-- Writing values over places records no call. -/
theorem records_fillPlaces (vs : List Value) (places : List Place) (s : Scripted) :
    Records [] s (fillPlaces vs places s).2 := by
  induction vs generalizing places s with
  | nil => exact .refl s
  | cons v vs ih =>
    cases places with
    | nil => exact .refl s
    | cons place places => exact (records_storePlace v s).trans (ih places (storePlace v s).2)

/-! ## The operations -/

/-- Preparing is recorded with text and types, whether or not it fails. -/
theorem records_prepare (sql : String) (oids : List Oid) (s : Scripted) :
    Records [.prepare sql oids] s (prepare sql oids s).2 :=
  .bind (records_record _ s) fun _ t => .bind (records_checkFailure .prepare t) fun _ u => .refl u

/-- A prepared statement is known by the text that was prepared. -/
theorem sql_of_prepare {sql : String} {oids : List Oid} {s t : Scripted} {statement : Statement}
    (h : prepare sql oids s = (.ok statement, t)) : statement.sql = sql := by
  simp only [prepare, Step.bind_apply, Step.update_apply, Step.pure_apply] at h
  split at h
  · cases h
    rfl
  · cases h

/-- An execution is recorded with the text and the options. -/
theorem records_execute (sql : String) (readOnly : Bool) (countLimit : Int) (s : Scripted) :
    Records [.execute sql readOnly countLimit] s (execute sql readOnly countLimit s).2 :=
  .bind (records_record _ s) fun _ t =>
    .bind (records_checkFailure .execute t) fun _ u => records_takeAffected u

/-- The execution of a prepared statement is recorded with the values that its places stand for. -/
theorem records_executePrepared (statement : Statement) (places : List Place) (s : Scripted) :
    Records [.executePrepared statement.sql (places.map s.placeValue)] s
      (executePrepared statement places s).2 :=
  .bind (records_record _ s) fun _ t =>
    .bind (records_checkFailure .execute t) fun _ u => records_takeAffected u

/-- A cursor is recorded with the values that the places stand for. -/
theorem records_openCursor (statement : Statement) (places : List Place) (s : Scripted) :
    Records [.openCursor statement.sql (places.map s.placeValue)] s (openCursor statement places s).2 :=
  .bind (records_record _ s) fun _ t =>
    .bind (records_checkFailure .openCursor t) fun _ u => records_takeResult u

/-- A fetch is recorded, whether or not the cursor is open. -/
theorem records_fetch (cursor : Cursor) (s : Scripted) : Records [.fetch] s (fetch cursor s).2 :=
  .bind (records_record _ s) fun _ t =>
    .bind (records_checkFailure .fetch t) fun _ u => records_moveCursor cursor u

theorem records_dimensions (s : Scripted) : Records [.dimensions] s (dimensions s).2 := ⟨rfl, rfl⟩

theorem records_columns (count : Nat) (s : Scripted) : Records [.columns] s (columns count s).2 :=
  .bind (records_record _ s) fun _ t => .refl t

/-- Telling the columns does not fail. -/
theorem columns_ne_error (count : Nat) (s t : Scripted) (e : Error) :
    columns count s ≠ (.error e, t) := by
  intro h
  cases h

/-- Taking the current row is recorded, also where there is none. -/
theorem records_currentRow (places : List Place) (s : Scripted) :
    Records [.currentRow] s (currentRow places s).2 := by
  rw [currentRow]
  split
  · exact (records_record .currentRow s).trans (records_fillPlaces _ places _)
  · exact records_record .currentRow s

/-- The end of a context is recorded. -/
theorem records_finish (s : Scripted) : Records [.finish] s s.finish := ⟨rfl, rfl⟩

/-- Reading a datum is not recorded. -/
theorem records_readDatum (d : Nat) (oid : Oid) (s : Scripted) : Records [] s (readDatum d oid s).2 := by
  rw [readDatum]
  split <;> exact .refl s

/-- Binding values is not recorded. -/
theorem records_bindPlaces (bindings : List (Value × Oid)) (s : Scripted) :
    Records [] s (bindPlaces bindings s).2 := by
  induction bindings generalizing s with
  | nil => exact .refl s
  | cons binding rest ih =>
    obtain ⟨v, oid⟩ := binding
    refine .bind ?_ fun place t => .bind (ih t) fun places u => .refl u
    rw [bindPlace]
    split
    · exact .refl s
    · exact .bind (records_store v s) fun d t => .refl t

end Scripted

end InProcessSql
