import InProcessSql.Proofs.Executions

/-!
# Runs that agree

Two runs of the same requests, on executors that answer alike whatever values they are handed, agree: the
same steps succeed, the same steps fail with the same errors, and the executors stay related.
`ValuesUnseen R` says what an executor has to do for it, `Step.Agree` what it means for a step, and
`Reader.Abreast` that two readers have come equally far.
-/

namespace InProcessSql

/-! ## Steps that agree -/

section Steps

variable {S ε α β γ δ : Type} {R : S → S → Prop} {P : α → β → Prop} {Q : γ → δ → Prop}

/-- Two outcomes agree: both are the same error, or both are results and these are related. The states that
they leave are related in either case. -/
def Agreeing (R : S → S → Prop) (P : α → β → Prop) (x : Except ε α × S) (y : Except ε β × S) : Prop :=
  (∃ a b s t, x = (.ok a, s) ∧ y = (.ok b, t) ∧ P a b ∧ R s t) ∨
    ∃ e s t, x = (.error e, s) ∧ y = (.error e, t) ∧ R s t

/-- Two runs agree that both succeed, with related values and related states. -/
theorem Agreeing.ok {a : α} {b : β} {s t : S} (h : P a b) (hst : R s t) :
    Agreeing R P ((.ok a, s) : Except ε α × S) (.ok b, t) :=
  .inl ⟨a, b, s, t, rfl, rfl, h, hst⟩

/-- Two runs agree that both fail with the same error. -/
theorem Agreeing.error (e : ε) {s t : S} (hst : R s t) :
    Agreeing R P ((.error e, s) : Except ε α × S) (.error e, t) :=
  .inr ⟨e, s, t, rfl, rfl, hst⟩

/-- Runs that agree end in related states. -/
theorem Agreeing.states {x : Except ε α × S} {y : Except ε β × S} (h : Agreeing R P x y) : R x.2 y.2 := by
  obtain ⟨a, b, s, t, rfl, rfl, -, hst⟩ | ⟨e, s, t, rfl, rfl, hst⟩ := h
  · exact hst
  · exact hst

/-- Runs with the same outcome and related states agree. -/
theorem agreeing_of_eq {x y : Except ε α × S} (h : x.1 = y.1) (hst : R x.2 y.2) : Agreeing R Eq x y := by
  obtain ⟨result, s⟩ := x
  obtain ⟨_, t⟩ := y
  obtain rfl := h
  cases result with
  | ok a => exact .ok rfl hst
  | error e => exact .error e hst

/-- Two steps agree: on related states their outcomes do. -/
def Step.Agree (R : S → S → Prop) (P : α → β → Prop) (x : Step S ε α) (y : Step S ε β) : Prop :=
  ∀ s t, R s t → Agreeing R P (x s) (y t)

namespace Step

theorem agree_pure {a : α} {b : β} (h : P a b) :
    Agree R P (pure a : Step S ε α) (pure b : Step S ε β) :=
  fun _ _ hst => .ok h hst

/-- Changes that lead from related states to related ones agree. -/
theorem agree_update {f g : S → S} (h : ∀ s t, R s t → R (f s) (g t)) :
    Agree R Eq (update f : Step S ε Unit) (update g) :=
  fun s t hst => .ok rfl (h s t hst)

/-- Steps that do not fail agree if their values and states are related. -/
theorem agree_total {f : S → α × S} {g : S → β × S}
    (h : ∀ s t, R s t → P (f s).1 (g t).1 ∧ R (f s).2 (g t).2) :
    Agree R P (total f : Step S ε α) (total g : Step S ε β) :=
  fun s t hst => .ok (h s t hst).1 (h s t hst).2

/-- Steps that agree go on with steps that agree. -/
theorem Agree.bind {x : Step S ε α} {y : Step S ε β} {f : α → Step S ε γ} {g : β → Step S ε δ}
    (hx : Agree R P x y) (hf : ∀ a b, P a b → Agree R Q (f a) (g b)) :
    Agree R Q (x >>= f) (y >>= g) := by
  intro s t hst
  obtain ⟨a, b, s', t', hok, hok', hab, hnext⟩ | ⟨e, s', t', herror, herror', hnext⟩ := hx s t hst
  · rw [bind_of_ok hok, bind_of_ok hok']
    exact hf a b hab s' t' hnext
  · rw [bind_of_error herror, bind_of_error herror']
    exact .error e hnext

end Step

end Steps

/-! ## Connections -/

variable {σ : Type} {R : σ → σ → Prop}

namespace Connection

/-- Two connections with related executors and the same options. -/
structure Matched (R : σ → σ → Prop) (c d : Connection σ) : Prop where
  executor : R c.executor d.executor
  options : c.options = d.options

variable {c d : Connection σ}

/-- The events of matched connections may differ. -/
theorem Matched.emit (h : Matched R c d) (event event' : Event) :
    Matched R (c.emit event) (d.emit event') :=
  ⟨h.executor, h.options⟩

/-- Statements are logged on both connections or on neither, in words of their own. -/
theorem Matched.logStatement (h : Matched R c d) (event event' : Level → Event) :
    Matched R (c.logStatement event) (d.logStatement event') :=
  ⟨by simpa only [executor_logStatement] using h.executor,
    by simpa only [options_logStatement] using h.options⟩

/-- Steps of the executors agree on the connections as well. -/
theorem agree_onExecutor {α β : Type} {P : α → β → Prop} {f : Step σ Error α} {g : Step σ Error β}
    (h : Step.Agree R P f g) : Step.Agree (Matched R) P (onExecutor f) (onExecutor g) := by
  intro c d hcd
  obtain ⟨a, b, s, t, hf, hg, hab, hst⟩ | ⟨e, s, t, hf, hg, hst⟩ := h _ _ hcd.executor
  · rw [onExecutor_of_eq hf, onExecutor_of_eq hg]
    exact .ok hab ⟨hst, hcd.options⟩
  · rw [onExecutor_of_eq hf, onExecutor_of_eq hg]
    exact .error e ⟨hst, hcd.options⟩

/-- Work on the executors that does not fail agrees on the connections as well. -/
theorem agree_total_onExecutor {α β : Type} {P : α → β → Prop} {f : σ → α × σ} {g : σ → β × σ}
    (h : ∀ s t, R s t → P (f s).1 (g t).1 ∧ R (f s).2 (g t).2) :
    Step.Agree (Matched R) P (ε := Error) (Step.total (onExecutor f)) (Step.total (onExecutor g)) :=
  Step.agree_total fun c d hcd =>
    have hnext := h c.executor d.executor hcd.executor
    ⟨hnext.1, hnext.2, hcd.options⟩

end Connection

open Connection

variable [Executor σ]

/-- On related states the operations of the executor agree, whatever values and places they are handed. -/
structure ValuesUnseen (R : σ → σ → Prop) : Prop where
  equivalence : Equivalence R
  ready : ∀ s t : σ, R s t →
    (Executor.ready s).1 = (Executor.ready t).1 ∧ R (Executor.ready s).2 (Executor.ready t).2
  prepare : ∀ (sql : String) (oids : List Oid),
    Step.Agree R Eq (Executor.prepare sql oids) (Executor.prepare sql oids)
  execute : ∀ (sql : String) (readOnly : Bool) (countLimit : Int),
    Step.Agree R Eq (Executor.execute sql readOnly countLimit) (Executor.execute sql readOnly countLimit)
  executePrepared : ∀ (statement : Executor.Statement σ) (places places' : List (Executor.Place σ))
    (readOnly : Bool) (countLimit : Int),
    Step.Agree R Eq (Executor.executePrepared statement places readOnly countLimit)
      (Executor.executePrepared statement places' readOnly countLimit)
  openCursor : ∀ (statement : Executor.Statement σ) (places places' : List (Executor.Place σ)),
    Step.Agree R Eq (Executor.openCursor statement places) (Executor.openCursor statement places')
  fetch : ∀ cursor : Executor.Cursor σ, Step.Agree R Eq (Executor.fetch cursor) (Executor.fetch cursor)
  dimensions : ∀ s t : σ, R s t → (Executor.dimensions s).1 = (Executor.dimensions t).1 ∧
    R (Executor.dimensions s).2 (Executor.dimensions t).2
  columns : ∀ count : Nat, Step.Agree R Eq (Executor.columns (σ := σ) count) (Executor.columns count)
  currentRow : ∀ (places places' : List (Executor.Place σ)) (s t : σ), R s t →
    R (Executor.currentRow places s).2 (Executor.currentRow places' t).2
  finish : ∀ s t : σ, R s t → R (Executor.finish s) (Executor.finish t)
  readDatum : ∀ (datum : Executor.Datum σ) (oid : Oid) (s : σ), R s (Executor.readDatum datum oid s).2
  writeDatum : ∀ (v : Value) (oid : Oid) (s : σ),
    ∃ datum t, Executor.writeDatum v oid s = (.ok datum, t) ∧ R s t

namespace Connection

variable {c d e : Connection σ}

theorem Matched.refl (hR : ValuesUnseen R) (c : Connection σ) : Matched R c c :=
  ⟨hR.equivalence.refl c.executor, rfl⟩

theorem Matched.symm (hR : ValuesUnseen R) (h : Matched R c d) : Matched R d c :=
  ⟨hR.equivalence.symm h.executor, h.options.symm⟩

theorem Matched.trans (hR : ValuesUnseen R) (h : Matched R c d) (h' : Matched R d e) : Matched R c e :=
  ⟨hR.equivalence.trans h.executor h'.executor, h.options.trans h'.options⟩

/-- Connections are still matched once both have ended their contexts. -/
theorem Matched.release (hR : ValuesUnseen R) (h : Matched R c d) : Matched R c.release d.release :=
  ⟨hR.finish _ _ h.executor, h.options⟩

variable {α β : Type} {P : α → β → Prop} {x : Action σ α} {y : Action σ β}

/-- Nothing is done in a context that the executor refuses. -/
theorem opening_of_refused (hready : (Executor.ready c.executor).1 = false) (x : Action σ α) :
    opening x c = (.error .notReady, c.asked) := by
  rcases opening_cases x c with ⟨-, h⟩ | ⟨haccepted, -⟩
  · exact h
  · rw [hready] at haccepted
    cases haccepted

/-- A context is left open where something has been opened in it. -/
theorem opening_of_ok (hready : (Executor.ready c.executor).1 = true) {a : α}
    (h : x c.asked = (.ok a, d)) : opening x c = (.ok a, d) := by
  rcases opening_cases x c with ⟨hrefused, -⟩ | ⟨-, ⟨a', d', h', hopening⟩ | ⟨e, d', h', -⟩⟩
  · rw [hready] at hrefused
    cases hrefused
  · rw [h] at h'
    cases h'
    exact hopening
  · rw [h] at h'
    cases h'

/-- A context is ended where nothing could be opened in it. -/
theorem opening_of_error (hready : (Executor.ready c.executor).1 = true) {e : Error}
    (h : x c.asked = (.error e, d)) : opening x c = (.error e, d.release) := by
  rcases opening_cases x c with ⟨hrefused, -⟩ | ⟨-, ⟨a, d', h', -⟩ | ⟨e', d', h', hopening⟩⟩
  · rw [hready] at hrefused
    cases hrefused
  · rw [h] at h'
    cases h'
  · rw [h] at h'
    cases h'
    exact hopening

/-- Steps that agree also do in a context that is kept if they succeed. -/
theorem agree_opening (hR : ValuesUnseen R) (h : Step.Agree (Matched R) P x y) :
    Step.Agree (Matched R) P (opening x) (opening y) := by
  intro c d hcd
  obtain ⟨hanswer, hready⟩ := hR.ready c.executor d.executor hcd.executor
  have hasked : Matched R c.asked d.asked := ⟨hready, hcd.options⟩
  cases hc : (Executor.ready c.executor).1 with
  | false =>
    rw [opening_of_refused hc, opening_of_refused (hanswer.symm.trans hc)]
    exact .error _ hasked
  | true =>
    have hd := hanswer.symm.trans hc
    obtain ⟨a, b, c', d', hok, hok', hab, hnext⟩ | ⟨e, c', d', herror, herror', hnext⟩ := h _ _ hasked
    · rw [opening_of_ok hc hok, opening_of_ok hd hok']
      exact .ok hab hnext
    · rw [opening_of_error hc herror, opening_of_error hd herror']
      exact .error e (hnext.release hR)

/-- Steps that agree also do in a context of their own. -/
theorem agree_within (hR : ValuesUnseen R) (h : Step.Agree (Matched R) P x y) :
    Step.Agree (Matched R) P (within x) (within y) := by
  intro c d hcd
  obtain ⟨a, b, c', d', hok, hok', hab, hnext⟩ | ⟨e, c', d', herror, herror', hnext⟩ :=
    agree_opening hR h c d hcd
  · simp only [within, hok, hok']
    exact .ok hab (hnext.release hR)
  · simp only [within, herror, herror']
    exact .error e hnext

/-- Reading a datum keeps the options. -/
theorem options_readDatum (datum : Executor.Datum σ) (oid : Oid) (c : Connection σ) :
    (readDatum datum oid c).2.options = c.options := by
  simp only [readDatum, onExecutor]
  rcases Executor.readDatum datum oid c.executor with ⟨_ | _, s⟩ <;> rfl

end Connection

/-! ## Readers -/

/-- Two phases that differ in the places of the current row at most. -/
inductive Phase.Abreast : Phase σ → Phase σ → Prop
  | active (statement : Prepared σ) (cursor : Executor.Cursor σ)
    (row row' : Option (List (Executor.Place σ))) :
    Abreast (.active statement cursor row) (.active statement cursor row')
  | exhausted : Abreast .exhausted .exhausted
  | closed : Abreast .closed .closed

theorem Phase.Abreast.refl (phase : Phase σ) : Phase.Abreast phase phase := by
  cases phase with
  | active statement cursor row => exact .active statement cursor row row
  | exhausted => exact .exhausted
  | closed => exact .closed

namespace Reader

/-- Two readers have come equally far on connections that are matched. -/
structure Abreast (R : σ → σ → Prop) (x y : Reader σ × Connection σ) : Prop where
  phase : Phase.Abreast x.1.phase y.1.phase
  columns : x.1.columns = y.1.columns
  connection : Matched R x.2 y.2

/-- A reader is abreast of itself on a matched connection. -/
theorem abreast_of_matched {c d : Connection σ} (h : Matched R c d) (r : Reader σ) :
    Abreast R (r, c) (r, d) :=
  ⟨.refl r.phase, rfl, h⟩

/-- If the operations of a fetch agree, then rows are fetched alike: either there is none, or there are two that are
related and have the same columns. -/
theorem agree_fetchRow {P : List (Executor.Place σ) → List (Executor.Place σ) → Prop} (cursor : Executor.Cursor σ)
    (known : Option Columns) (previous previous' : Option (List (Executor.Place σ)))
    (hfetch : Step.Agree R Eq (Executor.fetch cursor) (Executor.fetch cursor))
    (hdimensions : ∀ s t : σ, R s t → (Executor.dimensions s).1 = (Executor.dimensions t).1 ∧
      R (Executor.dimensions s).2 (Executor.dimensions t).2)
    (hcolumns : ∀ count : Nat, Step.Agree R Eq (Executor.columns (σ := σ) count) (Executor.columns count))
    (hrow : ∀ (cs : Columns) (s t : σ), R s t →
      P (Executor.currentRow (placesFor previous cs) s).1 (Executor.currentRow (placesFor previous' cs) t).1 ∧
        R (Executor.currentRow (placesFor previous cs) s).2 (Executor.currentRow (placesFor previous' cs) t).2) :
    Step.Agree (Matched R) (Option.Rel fun fetched fetched' => fetched.1 = fetched'.1 ∧ P fetched.2 fetched'.2)
      (fetchRow cursor known previous) (fetchRow cursor known previous') := by
  have htold : ∀ count, Step.Agree (Matched R) Eq (columnsOf known count : Action σ Columns)
      (columnsOf known count) := by
    intro count
    cases known with
    | some cs => exact Step.agree_pure rfl
    | none => exact agree_onExecutor (hcolumns count)
  refine (agree_onExecutor hfetch).bind fun _ _ _ => (agree_total_onExecutor hdimensions).bind ?_
  rintro ⟨rows, count⟩ _ rfl
  refine (Step.agree_update fun c d h => h.emit _ _).bind fun _ _ _ => ?_
  cases rows with
  | zero => exact Step.agree_pure .none
  | succ rows =>
    simp only [if_neg (Nat.succ_ne_zero rows)]
    refine (htold count).bind ?_
    rintro cs _ rfl
    exact (agree_total_onExecutor (hrow cs)).bind fun _ _ hplaces => Step.agree_pure (.some ⟨rfl, hplaces⟩)

variable {r q : Reader σ} {c d : Connection σ}

/-- Readers stay abreast when they move. -/
theorem Abreast.read (hR : ValuesUnseen R) (h : Abreast R (r, c) (q, d)) :
    Agreeing (Abreast R) Eq (r.read c) (q.read d) := by
  obtain ⟨hphase, hcolumns, hcd⟩ := h
  obtain ⟨phase, columns, rowsFetched, recordsAffected⟩ := r
  obtain ⟨phase', columns', rowsFetched', recordsAffected'⟩ := q
  obtain rfl : columns = columns' := hcolumns
  cases hphase with
  | exhausted => exact .ok rfl ⟨.exhausted, rfl, hcd⟩
  | closed => exact .ok rfl ⟨.closed, rfl, hcd⟩
  | active statement cursor row row' =>
    -- The rows themselves may differ, and so may what they are written over.
    have hfetch := agree_fetchRow (P := fun _ _ => True) cursor columns row row' (hR.fetch cursor) hR.dimensions
      hR.columns fun _ s t hst => ⟨trivial, hR.currentRow _ _ s t hst⟩
    obtain ⟨next, next', c', d', hok, hok', hsame, hnext⟩ | ⟨e, c', d', herror, herror', hnext⟩ := hfetch c d hcd
    · simp only [Reader.read, hok, hok']
      cases hsame with
      | none => exact .ok rfl ⟨.exhausted, rfl, (hnext.emit _ _).release hR⟩
      | some hfetched => exact .ok rfl ⟨.active _ _ _ _, congrArg some hfetched.1, hnext⟩
    · simp only [Reader.read, herror, herror']
      exact .error e ⟨.closed, rfl, (hnext.emit _ _).release hR⟩

/-- Readers that are abreast are so after both have been closed. -/
theorem Abreast.close (hR : ValuesUnseen R) (h : Abreast R (r, c) (q, d)) :
    Abreast R (r.close c) (q.close d) := by
  obtain ⟨hphase, hcolumns, hcd⟩ := h
  obtain ⟨phase, columns, rowsFetched, recordsAffected⟩ := r
  obtain ⟨phase', columns', rowsFetched', recordsAffected'⟩ := q
  cases hphase with
  | active => exact ⟨.closed, hcolumns, hcd.release hR⟩
  | exhausted => exact ⟨.closed, hcolumns, hcd⟩
  | closed => exact ⟨.closed, hcolumns, hcd⟩

/-- Closing a reader and giving it up lead to the same state of the executor. -/
theorem matched_dispose (hR : ValuesUnseen R) (r : Reader σ) (c : Connection σ) :
    Matched R (r.close c).2 (r.dispose c) := by
  by_cases h : r.IsActive
  · rw [close_of_isActive h, dispose_of_isActive h]
    exact ⟨hR.equivalence.refl _, rfl⟩
  · rw [close_of_not_isActive h, dispose_of_not_isActive h]
    exact .refl hR c

/-- Giving up readers that are abreast leaves matched connections. -/
theorem Abreast.dispose (hR : ValuesUnseen R) (h : Abreast R (r, c) (q, d)) :
    Matched R (r.dispose c) (q.dispose d) := by
  have hclosed : Matched R (r.close c).2 (q.dispose d) :=
    (h.close hR).connection.trans hR (matched_dispose hR q d)
  exact ((matched_dispose hR r c).symm hR).trans hR hclosed

/-! ## Values of the current row -/

/-- Looking at a value leaves the options of the connection as they are. -/
theorem options_value (r : Reader σ) (i : Nat) (c : Connection σ) :
    (r.value i c).2.options = c.options := by
  rw [value]
  cases r.column i with
  | error e => rfl
  | ok column =>
    cases r.place i with
    | error e => rfl
    | ok place =>
      cases hnull : place.isNull with
      | true => simp only [hnull, if_true, Step.ret_apply]
      | false => simp only [hnull, Bool.false_eq_true, if_false, options_readDatum]

/-- Telling a value leaves the connection matched with what it was. -/
theorem matched_value (hR : ValuesUnseen R) (r : Reader σ) (i : Nat) (c : Connection σ) :
    Matched R c (r.value i c).2 := by
  refine ⟨?_, (options_value r i c).symm⟩
  rcases r.executor_value_cases i c with hvalue | ⟨datum, oid, hvalue⟩
  · rw [hvalue]
    exact hR.equivalence.refl c.executor
  · rw [hvalue]
    exact hR.readDatum datum oid c.executor

/-- Looking at values leaves a connection that is matched with the one before. -/
theorem Looked.matched (hR : ValuesUnseen R) {c' : Connection σ} (h : Looked r c c') :
    Matched R c c' := by
  induction h with
  | none => exact .refl hR c
  | value h i ih => exact ih.trans hR (matched_value hR r i _)

/-! ## Requests -/

/-- Readers stay abreast when they are asked for the same, whatever values they tell. -/
theorem Abreast.answer (hR : ValuesUnseen R) (h : Abreast R (r, c) (q, d)) (request : ReaderRequest) :
    Abreast R (r.answer c request).2 (q.answer d request).2 := by
  rcases r.answer_cases c request with ⟨hmoves, hr⟩ | ⟨rfl, -⟩ | ⟨hmoves, reply, c', hr, hlooked⟩
  · rcases q.answer_cases d request with ⟨-, hq⟩ | ⟨rfl, -⟩ | ⟨hstays, -⟩
    · rw [hr, hq]
      exact (h.read hR).states
    · cases hmoves
    · rw [hmoves] at hstays
      cases hstays
  · exact h.close hR
  · rcases q.answer_cases d request with ⟨hmoves', -⟩ | ⟨rfl, -⟩ | ⟨-, reply', d', hq, hlooked'⟩
    · rw [hmoves] at hmoves'
      cases hmoves'
    · exact h.close hR
    · rw [hr, hq]
      have hback : Matched R c' d := ((hlooked.matched hR).symm hR).trans hR h.connection
      exact ⟨h.phase, h.columns, hback.trans hR (hlooked'.matched hR)⟩

/-- Readers that are abreast stay so through the same requests. -/
theorem Abreast.answerAll (hR : ValuesUnseen R) (h : Abreast R (r, c) (q, d))
    (requests : List ReaderRequest) : Abreast R (r.answerAll c requests).2 (q.answerAll d requests).2 := by
  induction requests generalizing r q c d with
  | nil => exact h
  | cons request rest ih => exact ih (h.answer hR request)

/-! ## The first value -/

/-- Taking the first value leaves the connection as moving to the row and closing the reader does. -/
theorem matched_firstValue (hR : ValuesUnseen R) (r : Reader σ) (c : Connection σ) :
    Matched R ((r.read c).2.1.close (r.read c).2.2).2 (Command.firstValue r c).2 := by
  rw [Command.firstValue]
  rcases r.read c with ⟨_ | _ | _, r', c'⟩
  · exact matched_dispose hR r' c'
  · exact .refl hR _
  · -- Whether the value is told or not, the context is ended once.
    have htold := abreast_of_matched (matched_value hR r' 0 c') r'
    have hclosed := (htold.close hR).connection
    simp only
    rcases hvalue : r'.value 0 c' with ⟨_ | v, c''⟩
    · rw [hvalue] at hclosed
      exact hclosed.trans hR (matched_dispose hR r' c'')
    · rwa [hvalue] at hclosed

/-- Taking the first value of readers that are abreast leaves matched connections. -/
theorem Abreast.firstValue (hR : ValuesUnseen R) (h : Abreast R (r, c) (q, d)) :
    Matched R (Command.firstValue r c).2 (Command.firstValue q d).2 := by
  have hclosed := ((h.read hR).states.close hR).connection.trans hR (matched_firstValue hR q d)
  exact ((matched_firstValue hR r c).symm hR).trans hR hclosed

end Reader

end InProcessSql
