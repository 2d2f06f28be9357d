import InProcessSql.Workload.ConnectionRequest

/-!
# How executions go

The outcomes of the operations on connections, readers and commands, one statement for each operation and
for every executor. `Connection.opening_cases` tells how a context is established,
`Command.opening_openCursor` and `Command.running_run` how a plan is carried out in it,
`Reader.fetching_fetchRow` how a row is fetched, and `Reader.answer_cases` what a request does to a reader:
it moves the reader, closes it, or only looks at its values.
-/

namespace InProcessSql

variable {σ α : Type}

namespace Connection

/-- An action goes on from the value and the connection that the one before it has left, or ends with its error. -/
theorem bind_apply {β : Type} (x : Action σ α) (f : α → Action σ β) (c : Connection σ) :
    (x >>= f) c = match x c with
      | (.ok a, c) => f a c
      | (.error e, c) => (.error e, c) := by
  rcases h : x c with ⟨result, c'⟩
  cases result with
  | ok a => exact Step.bind_of_ok h
  | error e => exact Step.bind_of_error h

/-- A step of the executor changes nothing else of the connection. -/
theorem onExecutor_of_eq {f : σ → α × σ} {c : Connection σ} {a : α} {s : σ} (h : f c.executor = (a, s)) :
    c.onExecutor f = (a, { c with executor := s }) := by
  rw [onExecutor, h]

end Connection

/-- Planning does not reach the executor. -/
theorem Command.executor_prepare (cmd : Command) (c : Connection σ) :
    (cmd.prepare c).2.2.executor = c.executor := by
  simp only [prepare]
  split
  · rfl
  · split <;> rfl

variable [Executor σ]

/-! ## Contexts -/

namespace Connection

/-- The connection after the executor has been asked whether it accepts statements. -/
def asked (c : Connection σ) : Connection σ := { c with executor := (Executor.ready c.executor).2 }

/-- A step in a context that is kept if it succeeds: the executor refuses, the step succeeds, or the step
fails and the context is ended. -/
theorem opening_cases (step : Action σ α) (c : Connection σ) :
    ((Executor.ready c.executor).1 = false ∧ opening step c = (.error .notReady, c.asked)) ∨
      (Executor.ready c.executor).1 = true ∧
        ((∃ a c', step c.asked = (.ok a, c') ∧ opening step c = (.ok a, c')) ∨
          ∃ e c', step c.asked = (.error e, c') ∧ opening step c = (.error e, c'.release)) := by
  cases hready : (Executor.ready c.executor).1 with
  | false =>
    refine .inl ⟨rfl, ?_⟩
    simp only [opening, acquire, checkReady, onExecutor, hready]
    rfl
  | true =>
    have hopening : opening step c = match step c.asked with
        | (.ok a, c) => (.ok a, c)
        | (.error e, c) => (.error e, c.release) := by
      simp only [opening, acquire, checkReady, onExecutor, hready]
      rfl
    refine .inr ⟨rfl, ?_⟩
    rcases hstep : step c.asked with ⟨result, c'⟩
    rw [hstep] at hopening
    cases result with
    | ok a => exact .inl ⟨a, c', rfl, hopening⟩
    | error e => exact .inr ⟨e, c', rfl, hopening⟩

/-- A step in a context of its own: the executor refuses, or the context is ended whatever the step
answers. -/
theorem within_cases (step : Action σ α) (c : Connection σ) :
    ((Executor.ready c.executor).1 = false ∧ within step c = (.error .notReady, c.asked)) ∨
      (Executor.ready c.executor).1 = true ∧
        within step c = ((step c.asked).1, (step c.asked).2.release) := by
  rcases opening_cases step c with ⟨hready, h⟩ | ⟨hready, ⟨a, c', hstep, h⟩ | ⟨e, c', hstep, h⟩⟩
  · exact .inl ⟨hready, by simp only [within, h]⟩
  · exact .inr ⟨hready, by simp only [within, h, hstep]⟩
  · exact .inr ⟨hready, by simp only [within, h, hstep]⟩

/-- Reading a datum leaves the executor as the executor's own reading does. -/
theorem executor_readDatum (datum : Executor.Datum σ) (oid : Oid) (c : Connection σ) :
    (readDatum datum oid c).2.executor = (Executor.readDatum datum oid c.executor).2 := by
  simp only [readDatum, onExecutor]
  rcases Executor.readDatum datum oid c.executor with ⟨_ | _, s⟩ <;> rfl

end Connection

/-! ## Fetching a row -/

namespace Reader

/-- The places that a row is written over. -/
def placesFor (previous : Option (List (Executor.Place σ))) (cs : Columns) : List (Executor.Place σ) :=
  previous.getD (List.replicate cs.size Executor.blankPlace)

/-- How fetching a row goes from one state of the executor to another, with the columns that are known and
the row before. -/
inductive Fetching (cursor : Executor.Cursor σ) (known : Option Columns)
    (previous : Option (List (Executor.Place σ))) (s : σ) :
    Except Error (Option (Columns × List (Executor.Place σ))) → σ → Prop
  | fetchFailed {e : Error} {t : σ} (hfetch : Executor.fetch cursor s = (.error e, t)) :
    Fetching cursor known previous s (.error e) t
  | noRow {t u : σ} {count : Nat} (hfetch : Executor.fetch cursor s = (.ok (), t))
    (hsize : Executor.dimensions t = ((0, count), u)) : Fetching cursor known previous s (.ok none) u
  | columnsFailed {e : Error} {t u v : σ} {rows count : Nat}
    (hfetch : Executor.fetch cursor s = (.ok (), t))
    (hsize : Executor.dimensions t = ((rows + 1, count), u)) (hknown : known = none)
    (hcolumns : Executor.columns count u = (.error e, v)) : Fetching cursor known previous s (.error e) v
  | firstRow {t u v w : σ} {rows count : Nat} {cs : Columns} {row : List (Executor.Place σ)}
    (hfetch : Executor.fetch cursor s = (.ok (), t))
    (hsize : Executor.dimensions t = ((rows + 1, count), u)) (hknown : known = none)
    (hcolumns : Executor.columns count u = (.ok cs, v))
    (hrow : Executor.currentRow (placesFor previous cs) v = (row, w)) :
    Fetching cursor known previous s (.ok (some (cs, row))) w
  | laterRow {t u w : σ} {rows count : Nat} {cs : Columns} {row : List (Executor.Place σ)}
    (hfetch : Executor.fetch cursor s = (.ok (), t))
    (hsize : Executor.dimensions t = ((rows + 1, count), u)) (hknown : known = some cs)
    (hrow : Executor.currentRow (placesFor previous cs) u = (row, w)) :
    Fetching cursor known previous s (.ok (some (cs, row))) w

/-- A row is fetched in one of these ways. -/
theorem fetching_fetchRow (cursor : Executor.Cursor σ) (known : Option Columns)
    (previous : Option (List (Executor.Place σ))) (c : Connection σ) :
    Fetching cursor known previous c.executor (fetchRow cursor known previous c).1
      (fetchRow cursor known previous c).2.executor := by
  rcases hfetch : Executor.fetch cursor c.executor with ⟨fetched, t⟩
  rcases hsize : Executor.dimensions t with ⟨⟨rows, count⟩, u⟩
  cases fetched with
  | error e =>
    rw [fetchRow, Step.bind_of_error (Connection.onExecutor_of_eq hfetch)]
    exact .fetchFailed hfetch
  | ok =>
    rw [fetchRow, Step.bind_of_ok (Connection.onExecutor_of_eq hfetch)]
    simp only [Connection.bind_apply, Step.total_apply, Step.update_apply, Connection.onExecutor, hsize]
    cases rows with
    | zero => exact .noRow hfetch hsize
    | succ rows =>
      rw [if_neg (Nat.succ_ne_zero rows), Connection.bind_apply]
      cases known with
      | some cs => exact .laterRow hfetch hsize rfl rfl
      | none =>
        rcases hcolumns : Executor.columns count u with ⟨columns, v⟩
        simp only [columnsOf, Connection.onExecutor, Connection.executor_emit, hcolumns]
        cases columns with
        | error e => exact .columnsFailed hfetch hsize rfl hcolumns
        | ok cs => exact .firstRow hfetch hsize rfl hcolumns rfl

/-- A fetched row has a place for each column, and columns that were known stay the same. -/
theorem length_row_of_fetching {cursor : Executor.Cursor σ} {known : Option Columns}
    {previous : Option (List (Executor.Place σ))} {s t : σ} {cs : Columns} {row : List (Executor.Place σ)}
    (h : Fetching cursor known previous s (.ok (some (cs, row))) t)
    (hprevious : ∀ places, previous = some places → ∃ cs, known = some cs ∧ places.length = cs.size) :
    row.length = cs.size ∧ ∀ cs', known = some cs' → cs' = cs := by
  -- A row is as long as what it is written over: blank places for the columns, or the row before.
  have hplaces : ∀ (cs : Columns) (s t : σ), (∀ cs', known = some cs' → cs' = cs) →
      Executor.currentRow (placesFor previous cs) s = (row, t) → row.length = cs.size := by
    intro cs s t hcs hrow
    have hlength := Executor.length_currentRow (placesFor previous cs) s
    rw [hrow] at hlength
    rw [hlength, placesFor]
    cases hp : previous with
    | none => simp
    | some places =>
      obtain ⟨cs', hknown, hsize⟩ := hprevious places hp
      rw [Option.getD_some, hsize, hcs cs' hknown]
  cases h with
  | firstRow hfetch hsize hknown hcolumns hrow =>
    have hcs : ∀ cs', known = some cs' → cs' = cs := by
      intro cs' h
      rw [hknown] at h
      cases h
    exact ⟨hplaces cs _ _ hcs hrow, hcs⟩
  | laterRow hfetch hsize hknown hrow =>
    have hcs : ∀ cs', known = some cs' → cs' = cs := by
      intro cs' h
      exact Option.some.inj (h.symm.trans hknown)
    exact ⟨hplaces cs _ _ hcs hrow, hcs⟩

/-! ## Moving and closing -/

/-- Whether the cursor of the reader is open. -/
def IsActive (r : Reader σ) : Prop :=
  ∃ statement cursor row, r.phase = .active statement cursor row

theorem not_isActive_exhausted (r : Reader σ) : ¬ ({ r with phase := .exhausted } : Reader σ).IsActive := by
  rintro ⟨statement, cursor, row, h⟩
  cases h

theorem not_isActive_closed (r : Reader σ) : ¬ ({ r with phase := .closed } : Reader σ).IsActive := by
  rintro ⟨statement, cursor, row, h⟩
  cases h

theorem not_isActive_ofAffected (n : Nat) : ¬ (ofAffected n : Reader σ).IsActive := by
  rintro ⟨statement, cursor, row, h⟩
  cases h

/-- An active reader is not closed. -/
theorem isClosed_of_isActive {r : Reader σ} (h : r.IsActive) : r.isClosed = false := by
  obtain ⟨statement, cursor, row, hphase⟩ := h
  simp only [isClosed, hphase]

/-- Only an active reader has places of a row. -/
theorem row?_of_not_isActive {r : Reader σ} (h : ¬ r.IsActive) : r.row? = none := by
  cases hphase : r.phase with
  | active statement cursor row => exact absurd ⟨statement, cursor, row, hphase⟩ h
  | exhausted => simp only [row?, hphase]
  | closed => simp only [row?, hphase]

/-- Only an active reader stands on a row. -/
theorem hasRow_of_not_isActive {r : Reader σ} (h : ¬ r.IsActive) : r.hasRow = false := by
  rw [hasRow, row?_of_not_isActive h]
  rfl

/-- A reader that is not active has nothing to read, and an active one has a row, has none, or fails. -/
theorem read_cases (r : Reader σ) (c : Connection σ) :
    (¬ r.IsActive ∧ r.read c = (.ok false, r, c)) ∨
      ∃ statement cursor row, r.phase = .active statement cursor row ∧
        ((∃ cs next c', fetchRow cursor r.columns row c = (.ok (some (cs, next)), c') ∧
            r.read c = (.ok true,
              { r with
                phase := .active statement cursor (some next)
                columns := some cs
                rowsFetched := r.rowsFetched + 1 }, c')) ∨
          (∃ c', fetchRow cursor r.columns row c = (.ok none, c') ∧
            r.read c = (.ok false, { r with phase := .exhausted },
              (c'.emit (.exhausted r.rowsFetched)).release)) ∨
          ∃ e c', fetchRow cursor r.columns row c = (.error e, c') ∧
            r.read c = (.error e, { r with phase := .closed }, (c'.emit (.fetchFailed e)).release)) := by
  cases hphase : r.phase with
  | exhausted =>
    refine .inl ⟨?_, by simp only [read, hphase]⟩
    rintro ⟨statement, cursor, row, h⟩
    simp [hphase] at h
  | closed =>
    refine .inl ⟨?_, by simp only [read, hphase]⟩
    rintro ⟨statement, cursor, row, h⟩
    simp [hphase] at h
  | active statement cursor row =>
    refine .inr ⟨statement, cursor, row, rfl, ?_⟩
    rcases hfetch : fetchRow cursor r.columns row c with ⟨result, c'⟩
    rcases result with e | _ | ⟨cs, next⟩
    · exact .inr (.inr ⟨e, c', rfl, by simp only [read, hphase, hfetch]⟩)
    · exact .inr (.inl ⟨c', rfl, by simp only [read, hphase, hfetch]⟩)
    · exact .inl ⟨cs, next, c', rfl, by simp only [read, hphase, hfetch]⟩

/-- Closing an active reader ends its context. -/
theorem close_of_isActive {r : Reader σ} (h : r.IsActive) (c : Connection σ) :
    r.close c = ({ r with phase := .closed }, c.release) := by
  obtain ⟨statement, cursor, row, hphase⟩ := h
  simp only [close, hphase]

/-- Closing any other reader leaves the connection as it is. -/
theorem close_of_not_isActive {r : Reader σ} (h : ¬ r.IsActive) (c : Connection σ) :
    r.close c = ({ r with phase := .closed }, c) := by
  cases hphase : r.phase with
  | active statement cursor row => exact absurd ⟨statement, cursor, row, hphase⟩ h
  | exhausted => simp only [close, hphase]
  | closed => simp only [close, hphase]

/-- A reader that has been closed is not active. -/
theorem not_isActive_close (r : Reader σ) (c : Connection σ) : ¬ (r.close c).1.IsActive := by
  by_cases h : r.IsActive
  · rw [close_of_isActive h]
    exact not_isActive_closed r
  · rw [close_of_not_isActive h]
    exact not_isActive_closed r

/-- Giving up an active reader is told, and ends its context. -/
theorem dispose_of_isActive {r : Reader σ} (h : r.IsActive) (c : Connection σ) :
    r.dispose c = (c.emit (.abandoned r.rowsFetched)).release := by
  obtain ⟨statement, cursor, row, hphase⟩ := h
  simp only [dispose, hphase]

/-- Giving up any other reader does nothing. -/
theorem dispose_of_not_isActive {r : Reader σ} (h : ¬ r.IsActive) (c : Connection σ) :
    r.dispose c = c := by
  cases hphase : r.phase with
  | active statement cursor row => exact absurd ⟨statement, cursor, row, hphase⟩ h
  | exhausted => simp only [dispose, hphase]
  | closed => simp only [dispose, hphase]

/-! ## Requests to readers -/

/-- A connection after some values of the current row have been told. -/
inductive Looked (r : Reader σ) (c : Connection σ) : Connection σ → Prop
  | none : Looked r c c
  | value {c' : Connection σ} (h : Looked r c c') (i : Nat) : Looked r c (r.value i c').2

/-- Without a current row no value is told. -/
theorem value_of_not_hasRow {r : Reader σ} (h : r.hasRow = false) (i : Nat) (c : Connection σ) :
    (r.value i c).2 = c := by
  have hrow : r.row? = .none := by
    simpa [hasRow] using h
  cases hcolumn : r.column i with
  | error e => simp only [value, hcolumn, Step.fail_apply]
  | ok column => simp only [value, hcolumn, place, hrow, Option.bind_none, Step.fail_apply]

/-- Telling a value reads one datum at most. -/
theorem executor_value_cases (r : Reader σ) (i : Nat) (c : Connection σ) :
    (r.value i c).2.executor = c.executor ∨
      ∃ datum oid, (r.value i c).2.executor = (Executor.readDatum datum oid c.executor).2 := by
  cases hcolumn : r.column i with
  | error e => exact .inl (by simp only [value, hcolumn, Step.fail_apply])
  | ok column =>
    cases hplace : r.place i with
    | error e => exact .inl (by simp only [value, hcolumn, hplace, Step.fail_apply])
    | ok place =>
      cases hnull : place.isNull with
      | true => exact .inl (by simp only [value, hcolumn, hplace, hnull, if_true, Step.ret_apply])
      | false =>
        refine .inr ⟨place.datum, column.oid, ?_⟩
        simp only [value, hcolumn, hplace, hnull, Bool.false_eq_true, if_false,
          Connection.executor_readDatum]

/-- Looking for values does nothing without a current row. -/
theorem Looked.eq_of_not_hasRow {r : Reader σ} {c c' : Connection σ} (h : Looked r c c')
    (hrow : r.hasRow = false) : c' = c := by
  induction h with
  | none => rfl
  | value h i ih => rw [value_of_not_hasRow hrow, ih]

/-- Reading a value as a target leaves the connection as telling the value does. -/
theorem get_snd (r : Reader σ) (target : Target) (i : Nat) (c : Connection σ) :
    (r.get target i c).2 = (r.value i c).2 := by
  rw [get, Connection.bind_apply]
  rcases r.value i c with ⟨v, c'⟩
  cases v with
  | error e => rfl
  | ok v =>
    simp only
    cases target.read v <;> rfl

/-- A typed reading looks at values only. -/
theorem looked_get (r : Reader σ) (target : Target) (i : Nat) (c : Connection σ) :
    Looked r c (r.get target i c).2 := by
  rw [get_snd]
  exact .value .none i

/-- A typed reading by name looks at values only. -/
theorem looked_getByName (r : Reader σ) (target : Target) (name : String) (c : Connection σ) :
    Looked r c (r.getByName target name c).2 := by
  rw [getByName]
  cases r.ordinal name with
  | error e => exact .none
  | ok i => exact looked_get r target i c

/-- Copying a row looks at values only. -/
theorem looked_copyFrom (r : Reader σ) (count i : Nat) (buffer : List Value) (c c' : Connection σ)
    (h : Looked r c c') : Looked r c (r.copyFrom count i buffer c').2.2 := by
  induction buffer generalizing i c' with
  | nil => exact h
  | cons old rest ih =>
    rw [copyFrom]
    split
    · have hvalue : Looked r c (r.value i c').2 := .value h i
      rcases hv : r.value i c' with ⟨v, c''⟩
      rw [hv] at hvalue
      cases v with
      | error e => exact hvalue
      | ok v => exact ih (i + 1) c'' hvalue
    · exact h

end Reader

/-- Whether a reply says yes. -/
def ReaderReply.isTrue : ReaderReply → Bool
  | .flag b => b
  | _ => false

/-- Whether a request moves a reader. -/
def ReaderRequest.moves : ReaderRequest → Bool
  | .read => true
  | .nextResult => true
  | _ => false

namespace Reader

/-- A request moves the reader, closes it, or looks at its values and leaves it as it is. -/
theorem answer_cases (r : Reader σ) (c : Connection σ) (request : ReaderRequest) :
    (request.moves = true ∧ r.answer c request = (.ofExcept .flag (r.read c).1, (r.read c).2)) ∨
      (request = .close ∧ r.answer c request = (.done, r.close c)) ∨
      request.moves = false ∧ ∃ reply c', r.answer c request = (reply, r, c') ∧ Looked r c c' := by
  cases request with
  | read => exact .inl ⟨rfl, rfl⟩
  | nextResult => exact .inl ⟨rfl, rfl⟩
  | close => exact .inr (.inl ⟨rfl, rfl⟩)
  | value i => exact .inr (.inr ⟨rfl, _, _, rfl, .value .none i⟩)
  | get target i => exact .inr (.inr ⟨rfl, _, _, rfl, looked_get r target i c⟩)
  | getByName target name => exact .inr (.inr ⟨rfl, _, _, rfl, looked_getByName r target name c⟩)
  | values n =>
    have hcopied := looked_copyFrom r (min (List.replicate n Value.null).length r.fieldCount) 0
      (List.replicate n .null) c c .none
    refine .inr (.inr ⟨rfl, ?_⟩)
    simp only [answer, values]
    rcases hcopy : copyFrom r _ 0 (List.replicate n .null) c with ⟨outcome, buffer, c'⟩
    rw [hcopy] at hcopied
    cases outcome with
    | error e => exact ⟨_, _, rfl, hcopied⟩
    | ok => exact ⟨_, _, rfl, hcopied⟩
  | state | ordinal | columnName | columnType | columnTypeName | isNull =>
    exact .inr (.inr ⟨rfl, _, _, rfl, .none⟩)

/-- Nothing that a reader is asked for, once it is not active, reaches its connection. -/
theorem answerAll_of_not_isActive {r : Reader σ} (h : ¬ r.IsActive) (c : Connection σ)
    (requests : List ReaderRequest) :
    ¬ (r.answerAll c requests).2.1.IsActive ∧ (r.answerAll c requests).2.2 = c := by
  induction requests generalizing r c with
  | nil => exact ⟨h, rfl⟩
  | cons request rest ih =>
    obtain ⟨hinactive, hsame⟩ : ¬ (r.answer c request).2.1.IsActive ∧ (r.answer c request).2.2 = c := by
      rcases r.answer_cases c request with ⟨-, hmoved⟩ | ⟨-, hclosed⟩ | ⟨-, reply, c', hlook, hlooked⟩
      · rcases r.read_cases c with ⟨-, hread⟩ | ⟨statement, cursor, row, hphase, -⟩
        · rw [hmoved, hread]
          exact ⟨h, rfl⟩
        · exact absurd ⟨statement, cursor, row, hphase⟩ h
      · rw [hclosed, close_of_not_isActive h]
        exact ⟨not_isActive_closed r, rfl⟩
      · rw [hlook]
        exact ⟨h, hlooked.eq_of_not_hasRow (hasRow_of_not_isActive h)⟩
    obtain ⟨hafter, hkept⟩ := ih hinactive (r.answer c request).2.2
    exact ⟨hafter, hkept.trans hsame⟩

end Reader

/-! ## Statements -/

namespace Command

/-- How a cursor is opened over a plan, from one state of the executor to another. -/
inductive Opening (plan : Plan) (bindings : List (Value × Oid)) (s : σ) :
    Except Error (Reader σ) → σ → Prop
  | prepareFailed {e : Error} {t : σ}
    (hprepare : Executor.prepare plan.sql plan.oids s = (.error e, t)) : Opening plan bindings s (.error e) t
  | bindFailed {e : Error} {handle : Executor.Statement σ} {t u : σ}
    (hprepare : Executor.prepare plan.sql plan.oids s = (.ok handle, t))
    (hbind : bindPlaces bindings t = (.error e, u)) : Opening plan bindings s (.error e) u
  | openFailed {e : Error} {handle : Executor.Statement σ} {places : List (Executor.Place σ)} {t u v : σ}
    (hprepare : Executor.prepare plan.sql plan.oids s = (.ok handle, t))
    (hbind : bindPlaces bindings t = (.ok places, u))
    (hopen : Executor.openCursor handle places u = (.error e, v)) : Opening plan bindings s (.error e) v
  | opened {handle : Executor.Statement σ} {places : List (Executor.Place σ)} {cursor : Executor.Cursor σ}
    {t u v : σ} (hprepare : Executor.prepare plan.sql plan.oids s = (.ok handle, t))
    (hbind : bindPlaces bindings t = (.ok places, u))
    (hopen : Executor.openCursor handle places u = (.ok cursor, v)) :
    Opening plan bindings s (.ok (Reader.ofCursor ⟨handle, plan.sql, plan.oids⟩ cursor)) v

/-- How a plan runs to completion, from one state of the executor to another. -/
inductive Running (plan : Plan) (bindings : List (Value × Oid)) (options : Options) (s : σ) :
    Except Error Nat → σ → Prop
  | executed {result : Except Error Nat} {t : σ} (hoids : plan.oids = [])
    (hexecute : Executor.execute plan.sql options.readOnly options.countLimit s = (result, t)) :
    Running plan bindings options s result t
  | prepareFailed {e : Error} {t : σ} (hoids : plan.oids ≠ [])
    (hprepare : Executor.prepare plan.sql plan.oids s = (.error e, t)) :
    Running plan bindings options s (.error e) t
  | bindFailed {e : Error} {handle : Executor.Statement σ} {t u : σ} (hoids : plan.oids ≠ [])
    (hprepare : Executor.prepare plan.sql plan.oids s = (.ok handle, t))
    (hbind : bindPlaces bindings t = (.error e, u)) : Running plan bindings options s (.error e) u
  | executedPrepared {result : Except Error Nat} {handle : Executor.Statement σ}
    {places : List (Executor.Place σ)} {t u v : σ} (hoids : plan.oids ≠ [])
    (hprepare : Executor.prepare plan.sql plan.oids s = (.ok handle, t))
    (hbind : bindPlaces bindings t = (.ok places, u))
    (hexecute : Executor.executePrepared handle places options.readOnly options.countLimit u = (result, v)) :
    Running plan bindings options s result v

/-- A statement is prepared as the executor prepares it, and remembers the text and the types that it was prepared
from. -/
theorem exists_prepareStatement {plan : Plan} {c : Connection σ}
    {result : Except Error (Executor.Statement σ)} {s : σ}
    (h : Executor.prepare plan.sql plan.oids c.executor = (result, s)) :
    ∃ c' : Connection σ, c'.executor = s ∧
      prepareStatement plan c = (result.map fun handle => ⟨handle, plan.sql, plan.oids⟩, c') := by
  cases result with
  | error e =>
    exact ⟨_, rfl, by rw [prepareStatement, Step.bind_of_error (Connection.onExecutor_of_eq h)]; rfl⟩
  | ok handle =>
    refine ⟨({ c with executor := s } : Connection σ).emit (.prepared plan.sql plan.oids.length), rfl, ?_⟩
    rw [prepareStatement, Step.bind_of_ok (Connection.onExecutor_of_eq h)]
    rfl

/-- Parameters are bound as the executor binds their values. -/
theorem exists_bindParameters {plan : Plan} {ps : Parameters} {c : Connection σ}
    {result : Except Error (List (Executor.Place σ))} {s : σ}
    (h : bindPlaces (ps.bindings plan.oids) c.executor = (result, s)) :
    ∃ c' : Connection σ, c'.executor = s ∧ bindParameters plan ps c = (result, c') :=
  ⟨_, rfl, Connection.onExecutor_of_eq h⟩

/-- A cursor is opened in one of these ways. -/
theorem opening_openCursor (plan : Plan) (ps : Parameters) (c : Connection σ) :
    Opening plan (ps.bindings plan.oids) c.executor (openCursor plan ps c).1
      (openCursor plan ps c).2.executor := by
  rcases hprepare : Executor.prepare plan.sql plan.oids c.executor with ⟨_ | handle, t⟩
  · obtain ⟨c₁, rfl, hprepared⟩ := exists_prepareStatement hprepare
    rw [openCursor, Step.bind_of_error hprepared]
    exact .prepareFailed hprepare
  · obtain ⟨c₁, rfl, hprepared⟩ := exists_prepareStatement hprepare
    rw [openCursor, Step.bind_of_ok hprepared]
    rcases hbind : bindPlaces (ps.bindings plan.oids) c₁.executor with ⟨_ | places, u⟩
    · obtain ⟨c₂, rfl, hbound⟩ := exists_bindParameters hbind
      rw [Step.bind_of_error hbound]
      exact .bindFailed hprepare hbind
    · obtain ⟨c₂, rfl, hbound⟩ := exists_bindParameters hbind
      rw [Step.bind_of_ok hbound]
      rcases hopen : Executor.openCursor handle places c₂.executor with ⟨_ | cursor, v⟩
      · rw [Step.bind_of_error (Connection.onExecutor_of_eq hopen)]
        exact .openFailed hprepare hbind hopen
      · rw [Step.bind_of_ok (Connection.onExecutor_of_eq hopen)]
        simp only [Connection.bind_apply, Step.update_apply, Step.pure_apply,
          Connection.executor_logStatement]
        exact .opened hprepare hbind hopen

/-- A plan runs to completion in one of these ways. -/
theorem running_run (plan : Plan) (ps : Parameters) (options : Options) (c : Connection σ) :
    Running plan (ps.bindings plan.oids) options c.executor (run plan ps options c).1
      (run plan ps options c).2.executor := by
  -- Without parameters the text is executed as it is, and otherwise it is prepared first.
  by_cases hoids : plan.oids = []
  · have hrun : (run plan ps options : Action σ Nat) = _ := if_pos (List.isEmpty_iff.2 hoids)
    rw [hrun]
    exact .executed hoids rfl
  · have hrun : (run plan ps options : Action σ Nat) = _ :=
      if_neg fun h => hoids (List.isEmpty_iff.1 h)
    have hrun := congrFun hrun c
    rcases hprepare : Executor.prepare plan.sql plan.oids c.executor with ⟨_ | handle, t⟩
    · obtain ⟨c₁, rfl, hprepared⟩ := exists_prepareStatement hprepare
      rw [hrun.trans (Step.bind_of_error hprepared)]
      exact .prepareFailed hoids hprepare
    · obtain ⟨c₁, rfl, hprepared⟩ := exists_prepareStatement hprepare
      have hrun := hrun.trans (Step.bind_of_ok hprepared)
      rcases hbind : bindPlaces (ps.bindings plan.oids) c₁.executor with ⟨_ | places, u⟩
      · obtain ⟨c₂, rfl, hbound⟩ := exists_bindParameters hbind
        rw [hrun.trans (Step.bind_of_error hbound)]
        exact .bindFailed hoids hprepare hbind
      · obtain ⟨c₂, rfl, hbound⟩ := exists_bindParameters hbind
        rw [hrun.trans (Step.bind_of_ok hbound)]
        exact .executedPrepared hoids hprepare hbind rfl

/-- A command that has run to completion has ended its context. -/
theorem exists_finish_of_executeNonQuery {cmd cmd' : Command} {c c' : Connection σ} {n : Nat}
    (h : cmd.executeNonQuery c = (.ok n, cmd', c')) : ∃ s, c'.executor = Executor.finish s := by
  rw [executeNonQuery] at h
  rcases hplanned : cmd.prepare c with ⟨_ | plan, cmd₁, c₁⟩
  · rw [hplanned] at h
    cases h
  · rw [hplanned] at h
    rcases Connection.within_cases (run plan cmd₁.parameters c₁.options) c₁ with
      ⟨-, hwithin⟩ | ⟨-, hwithin⟩
    · simp only [hwithin] at h
      cases h
    · simp only [hwithin] at h
      rcases hrun : run plan cmd₁.parameters c₁.options c₁.asked with ⟨_ | m, c₂⟩
      · rw [hrun] at h
        cases h
      · rw [hrun] at h
        cases h
        exact ⟨c₂.executor, Connection.executor_logStatement _ _⟩

/-- The reader of a query is that of a cursor; the reader of another command has no rows, and its context
has been ended. -/
theorem reader_of_executeReader {cmd cmd' : Command} {c c' : Connection σ} {r : Reader σ}
    (h : cmd.executeReader c = (.ok r, cmd', c')) :
    (∃ statement cursor, r = Reader.ofCursor statement cursor) ∨
      ∃ n s, r = Reader.ofAffected n ∧ c'.executor = Executor.finish s := by
  rw [executeReader] at h
  -- Only a query leaves its context open for the reader.
  split at h
  · rcases hplanned : cmd.prepare c with ⟨_ | plan, cmd₁, c₁⟩
    · rw [hplanned] at h
      cases h
    · rw [hplanned] at h
      have hopening := opening_openCursor plan cmd₁.parameters c₁.asked
      rcases Connection.opening_cases (openCursor plan cmd₁.parameters) c₁ with
        ⟨-, hopen⟩ | ⟨-, ⟨r₁, c₂, hcursor, hopen⟩ | ⟨e, c₂, -, hopen⟩⟩
      · simp only [hopen] at h
        cases h
      · simp only [hopen] at h
        rw [hcursor] at hopening
        cases h
        cases hopening
        exact .inl ⟨_, _, rfl⟩
      · simp only [hopen] at h
        cases h
  · rcases hexecuted : cmd.executeNonQuery c with ⟨_ | n, cmd₁, c₁⟩
    · rw [hexecuted] at h
      cases h
    · rw [hexecuted] at h
      cases h
      obtain ⟨s, hs⟩ := exists_finish_of_executeNonQuery hexecuted
      exact .inr ⟨n, s, rfl, hs⟩

end Command

end InProcessSql
