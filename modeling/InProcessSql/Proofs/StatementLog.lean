import InProcessSql.Proofs.Executor.Achievements
import InProcessSql.Proofs.Sessions

/-!
# The log of statements

A connection logs cursors that it has opened and statements that it has executed after the executor has done so, and
between the two the context may be ended. `Work` keeps the two apart: it says what the executor has achieved between two
states of a connection, and what has been logged of it. A command is `Audited` if both are the same. The events that
tell of released contexts are counted along the way. `Connection.logs_answerAll` puts this together for whole runs.
-/

namespace InProcessSql

open Scripted

/-! ## Events of statements -/

/-- The event that tells of an achievement. -/
def Achievement.event (level : Level) : Achievement → Event
  | .opened sql => .cursorOpened level sql
  | .executed sql affected => .executed level sql affected

/-- The events that tell of achievements, if statements are logged. -/
def Options.eventsOf (options : Options) (achieved : List Achievement) : List Event :=
  match options.logLevel with
  | some level => achieved.map (Achievement.event level)
  | none => []

/-- Whether an event tells of a statement. -/
def Event.isStatement (e : Event) : Bool := e.message == "opened cursor" || e.message == "executed"

/-- Whether an event tells of the end of a context. -/
def Event.isReleased (e : Event) : Bool := e.message == "executor context released"

@[simp] theorem Options.eventsOf_nil (options : Options) : options.eventsOf [] = [] := by
  unfold eventsOf
  split <;> rfl

/-- Achievements are told one after the other. -/
theorem Options.eventsOf_append (options : Options) (earlier later : List Achievement) :
    options.eventsOf (earlier ++ later) = options.eventsOf earlier ++ options.eventsOf later := by
  unfold eventsOf
  split
  · exact List.map_append
  · rfl

/-! ## Work on a connection -/

/-- Between two states of a connection so much has been logged of statements, and each context that has been ended has
been logged. -/
structure Logs (logged : List Event) (c c' : Connection Scripted) : Prop where
  options_eq : c'.options = c.options
  events : ∃ events, c'.log = c.log ++ events ∧ events.filter Event.isStatement = logged
  released : c'.log.countP Event.isReleased + c.executor.finishCount
    = c.log.countP Event.isReleased + c'.executor.finishCount

/-- Between two states of a connection so much has been achieved, and so much has been logged. -/
structure Work (achieved : List Achievement) (logged : List Event) (c c' : Connection Scripted) : Prop
    extends Logs logged c c' where
  performs : ∃ calls, Performs calls achieved c.executor c'.executor

variable {achieved more : List Achievement} {logged moreLogged : List Event} {c c' d : Connection Scripted}
  {α β : Type}

/-- What is logged along the way is logged one after the other. -/
theorem Logs.trans (h : Logs logged c c') (h' : Logs moreLogged c' d) : Logs (logged ++ moreLogged) c d := by
  obtain ⟨events, hlog, hevents⟩ := h.events
  obtain ⟨moreEvents, hmoreLog, hmoreEvents⟩ := h'.events
  refine ⟨h'.options_eq.trans h.options_eq, ⟨events ++ moreEvents, ?_, ?_⟩, ?_⟩
  · rw [hmoreLog, hlog, List.append_assoc]
  · rw [List.filter_append, hevents, hmoreEvents]
  · have hfirst := h.released
    have hsecond := h'.released
    omega

/-- Where no event is logged and no context ended, there is nothing to account for. -/
theorem logs_of_log_eq (hoptions : c'.options = c.options) (hlog : c'.log = c.log)
    (hfinish : c'.executor.finishCount = c.executor.finishCount) : Logs [] c c' := by
  refine ⟨hoptions, ⟨[], ?_, rfl⟩, ?_⟩
  · rw [hlog, List.append_nil]
  · rw [hlog, hfinish]

/-- Where executor, options and log stay as they are, nothing has been done. -/
theorem Work.of_eq (hexecutor : c'.executor = c.executor) (hoptions : c'.options = c.options)
    (hlog : c'.log = c.log) : Work [] [] c c' := by
  refine ⟨logs_of_log_eq hoptions hlog (by rw [hexecutor]), [], ?_⟩
  rw [hexecutor]
  exact .refl _

theorem Work.refl (c : Connection Scripted) : Work [] [] c c := .of_eq rfl rfl rfl

/-- What is achieved and logged along the way is so one after the other. -/
theorem Work.trans (h : Work achieved logged c c') (h' : Work more moreLogged c' d) :
    Work (achieved ++ more) (logged ++ moreLogged) c d := by
  obtain ⟨calls, hcalls⟩ := h.performs
  obtain ⟨moreCalls, hmoreCalls⟩ := h'.performs
  exact ⟨h.toLogs.trans h'.toLogs, _, hcalls.trans hmoreCalls⟩

/-- Work may be followed by work that achieves and logs nothing. -/
theorem Work.then (h : Work achieved logged c c') (h' : Work [] [] c' d) : Work achieved logged c d := by
  have hboth := h.trans h'
  rwa [List.append_nil, List.append_nil] at hboth

/-- A step of the executor achieves what its calls do, and logs nothing. -/
theorem work_onExecutor {f : Scripted → α × Scripted} {calls : List Call}
    (h : Performs calls achieved c.executor (f c.executor).2) (hfinish : calls.countP Call.isFinish = 0) :
    Work achieved [] c (c.onExecutor f).2 := by
  have hcount : (f c.executor).2.finishCount = c.executor.finishCount := by
    unfold finishCount
    rw [h.records.calls_eq, List.countP_append, hfinish, Nat.add_zero]
  exact ⟨logs_of_log_eq rfl rfl hcount, calls, h⟩

/-- An event achieves nothing, and is logged if it tells of a statement. -/
theorem work_emit (event : Event) (hreleased : event.isReleased = false) (c : Connection Scripted) :
    Work [] ([event].filter Event.isStatement) c (c.emit event) := by
  refine ⟨⟨rfl, ⟨[event], rfl, rfl⟩, ?_⟩, [], .refl _⟩
  rw [Connection.log_emit, List.countP_append, List.countP_singleton, hreleased]
  rfl

/-- The end of a context is told. -/
theorem work_release (c : Connection Scripted) : Work [] [] c c.release := by
  refine ⟨⟨rfl, ⟨[.released], rfl, by decide⟩, ?_⟩, _, performs_finish c.executor⟩
  have hcalls : c.release.executor.calls = c.executor.calls ++ [.finish] := rfl
  have hlog : c.release.log = c.log ++ [.released] := rfl
  unfold finishCount
  rw [hcalls, hlog, List.countP_append, List.countP_append]
  exact Nat.add_right_comm _ _ _

/-- Other events may follow. -/
theorem Work.emit (h : Work achieved logged c c') (event : Event) (hreleased : event.isReleased = false)
    (hstatement : event.isStatement = false) : Work achieved logged c (c'.emit event) := by
  have hemitted := work_emit event hreleased c'
  rw [List.filter_cons_of_neg (by rw [hstatement]; exact Bool.false_ne_true)] at hemitted
  exact h.then hemitted

/-- The context may be ended then. -/
theorem Work.release (h : Work achieved logged c c') : Work achieved logged c c'.release :=
  h.then (work_release c')

/-- What has been achieved is logged, if statements are. -/
theorem work_logStatement (achievement : Achievement) (c : Connection Scripted) :
    Work [] (c.options.eventsOf [achievement]) c (c.logStatement fun level => achievement.event level) := by
  unfold Connection.logStatement Options.eventsOf
  cases c.options.logLevel with
  | none => exact .refl c
  | some level =>
    cases achievement with
    | opened sql => exact work_emit (.cursorOpened level sql) rfl c
    | executed sql affected => exact work_emit (.executed level sql affected) rfl c

/-! ## Work that is logged as it is done -/

/-- So much has been achieved, and this is what has been logged. -/
def Audited (achieved : List Achievement) (c c' : Connection Scripted) : Prop :=
  Work achieved (c.options.eventsOf achieved) c c'

/-- Where nothing has been achieved, nothing needs to be logged. -/
theorem Work.audited (h : Work [] [] c c') : Audited [] c c' := by
  unfold Audited
  rwa [Options.eventsOf_nil]

/-- What is audited may follow one another. -/
theorem Audited.trans (h : Audited achieved c c') (h' : Audited more c' d) : Audited (achieved ++ more) c d := by
  unfold Audited at h' ⊢
  rw [h.options_eq] at h'
  rw [Options.eventsOf_append]
  exact Work.trans h h'

/-- What the calls have achieved is what has been logged. -/
theorem Audited.achieved_eq (h : Audited achieved c c') : Scripted.achieved c.executor c'.executor = achieved := by
  obtain ⟨calls, hcalls⟩ := h.performs
  exact hcalls.achieved_eq

/-- The log of audited work is that of what its calls have achieved. -/
theorem Audited.logs (h : Audited achieved c c') :
    Logs (c.options.eventsOf (Scripted.achieved c.executor c'.executor)) c c' := by
  rw [h.achieved_eq]
  exact h.toLogs

/-- The cursors that have been opened have taken the oldest results. -/
theorem Audited.results_eq (h : Audited achieved c c') :
    c'.executor.results = c.executor.results.drop
      ((Scripted.achieved c.executor c'.executor).countP Achievement.isOpened) := by
  rw [h.achieved_eq]
  obtain ⟨calls, hcalls⟩ := h.performs
  exact hcalls.results_eq

/-- Nothing needs to have been achieved before. -/
theorem Audited.after (h : Audited achieved c' d) (hbefore : Work [] [] c c') : Audited achieved c d :=
  hbefore.audited.trans h

/-- An achievement has been logged once its event has been. -/
theorem Work.audited_logStatement {achievement : Achievement} (h : Work [achievement] [] c c') :
    Audited [achievement] c (c'.logStatement fun level => achievement.event level) := by
  have hboth := h.trans (work_logStatement achievement c')
  rw [h.options_eq] at hboth
  exact hboth

/-! ## Actions that achieve nothing -/

/-- The action achieves nothing, and no event of it tells of a statement. -/
def Quiet (x : Action Scripted α) : Prop := ∀ c, Work [] [] c (x c).2

/-- What holds if a quiet action fails, and of what goes on from it if it succeeds, holds of both together. -/
theorem Quiet.bind_cases {x : Action Scripted α} {f : α → Action Scripted β}
    {P : Except Error β × Connection Scripted → Prop} (hx : Quiet x)
    (hfailed : ∀ e c', Work [] [] c c' → P (.error e, c'))
    (hgone : ∀ a c', x c = (.ok a, c') → Work [] [] c c' → P (f a c')) : P ((x >>= f) c) := by
  have hfirst := hx c
  rw [Connection.bind_apply]
  rcases hresult : x c with ⟨e | a, c'⟩ <;> rw [hresult] at hfirst
  · exact hfailed e c' hfirst
  · exact hgone a c' hresult hfirst

/-- Quiet actions are quiet one after the other. -/
theorem Quiet.bind {x : Action Scripted α} {f : α → Action Scripted β} (hx : Quiet x) (hf : ∀ a, Quiet (f a)) :
    Quiet (x >>= f) := by
  intro c
  refine hx.bind_cases (P := fun r => Work [] [] c r.2) (fun _ _ hfailed => hfailed) ?_
  intro a c' _ hfirst
  exact hfirst.then (hf a c')

theorem quiet_pure (a : α) : Quiet (pure a : Action Scripted α) := Work.refl

theorem quiet_ite {p : Prop} [Decidable p] {x y : Action Scripted α} (hx : Quiet x) (hy : Quiet y) :
    Quiet (if p then x else y) := by
  split
  · exact hx
  · exact hy

theorem quiet_emit {event : Event} (hreleased : event.isReleased = false) (hstatement : event.isStatement = false) :
    Quiet (Step.update (Connection.emit event)) :=
  fun c => (Work.refl c).emit event hreleased hstatement

/-! ## Readers -/

namespace Reader

/-- Fetching a row is quiet: the event that it has been fetched tells of no statement. -/
theorem quiet_fetchRow (cursor : Executor.Cursor Scripted) (known : Option Columns)
    (previous : Option (List (Executor.Place Scripted))) : Quiet (fetchRow cursor known previous) := by
  have hfetch : Quiet (Connection.onExecutor (Executor.fetch cursor)) :=
    fun c => work_onExecutor (performs_fetch cursor c.executor) rfl
  have hsize : Quiet (Step.total (Connection.onExecutor Executor.dimensions)) :=
    fun c => work_onExecutor (performs_dimensions c.executor) rfl
  have hcolumns : ∀ count, Quiet (columnsOf known count) := by
    intro count
    cases known with
    | some columns => exact quiet_pure columns
    | none => exact fun c => work_onExecutor (performs_columns count c.executor) rfl
  have hrow : ∀ places, Quiet (Step.total (Connection.onExecutor (Executor.currentRow places))) :=
    fun places c => work_onExecutor (performs_currentRow places c.executor) rfl
  exact hfetch.bind fun _ => hsize.bind fun _ => (quiet_emit rfl rfl).bind fun _ =>
    quiet_ite (quiet_pure none) ((hcolumns _).bind fun _ => (hrow _).bind fun _ => quiet_pure _)

/-- Moving a reader is quiet. -/
theorem work_read (r : Reader Scripted) (c : Connection Scripted) : Work [] [] c (r.read c).2.2 := by
  rcases r.read_cases c with ⟨-, hread⟩ | ⟨statement, cursor, row, -, hread⟩
  · rw [hread]
    exact .refl c
  · have hfetched := quiet_fetchRow cursor r.columns row c
    rcases hread with ⟨cs, next, c', hfetch, hread⟩ | ⟨c', hfetch, hread⟩ | ⟨e, c', hfetch, hread⟩
    · rw [hread]
      rwa [hfetch] at hfetched
    · rw [hread]
      rw [hfetch] at hfetched
      exact (hfetched.emit (.exhausted r.rowsFetched) rfl rfl).release
    · rw [hread]
      rw [hfetch] at hfetched
      exact (hfetched.emit (.fetchFailed e) rfl rfl).release

/-- Closing a reader is quiet, but for the end of its context. -/
theorem work_close (r : Reader Scripted) (c : Connection Scripted) : Work [] [] c (r.close c).2 := by
  by_cases hactive : r.IsActive
  · rw [close_of_isActive hactive]
    exact work_release c
  · rw [close_of_not_isActive hactive]
    exact .refl c

/-- Giving a reader up is quiet, but for the end of its context. -/
theorem work_dispose (r : Reader Scripted) (c : Connection Scripted) : Work [] [] c (r.dispose c) := by
  by_cases hactive : r.IsActive
  · rw [dispose_of_isActive hactive]
    exact ((Work.refl c).emit (.abandoned r.rowsFetched) rfl rfl).release
  · rw [dispose_of_not_isActive hactive]
    exact .refl c

/-- Reading a datum is quiet, even where the text that has been read is told. -/
theorem quiet_readDatum (datum : Executor.Datum Scripted) (oid : Oid) : Quiet (Connection.readDatum datum oid) := by
  intro c
  have hread : Work [] [] c (c.onExecutor (Executor.readDatum datum oid)).2 :=
    work_onExecutor (performs_readDatum datum oid c.executor) rfl
  unfold Connection.readDatum
  rcases hreading : c.onExecutor (Executor.readDatum datum oid) with ⟨v | s, c'⟩ <;> rw [hreading] at hread
  · exact hread
  · exact hread.emit (.textDecoded oid s) rfl rfl

theorem quiet_value (r : Reader Scripted) (i : Nat) : Quiet (r.value i) := by
  unfold value
  split
  · exact Work.refl
  split
  · exact Work.refl
  exact quiet_ite Work.refl (quiet_readDatum _ _)

/-- Looking at values is quiet. -/
theorem Looked.work {r : Reader Scripted} (h : Looked r c c') : Work [] [] c c' := by
  induction h with
  | none => exact .refl c
  | value _ i ih => exact ih.then (quiet_value r i _)

/-- Any one request to a reader is quiet. -/
theorem work_answer (r : Reader Scripted) (c : Connection Scripted) (request : ReaderRequest) :
    Work [] [] c (r.answer c request).2.2 := by
  rcases r.answer_cases c request with ⟨-, hread⟩ | ⟨-, hclose⟩ | ⟨-, reply, c', hlook, hlooked⟩
  · rw [hread]
    exact work_read r c
  · rw [hclose]
    exact work_close r c
  · rw [hlook]
    exact hlooked.work

/-- Whatever a reader is asked for is quiet. -/
theorem work_answerAll (r : Reader Scripted) (c : Connection Scripted) (requests : List ReaderRequest) :
    Work [] [] c (r.answerAll c requests).2.2 := by
  induction requests generalizing r c with
  | nil => exact .refl c
  | cons request rest ih => exact (work_answer r c request).then (ih _ _)

end Reader

/-! ## Commands -/

namespace Command

/-- Taking the first value of a reader is quiet. -/
theorem work_firstValue (r : Reader Scripted) (c : Connection Scripted) : Work [] [] c (firstValue r c).2 := by
  have hread := r.work_read c
  unfold firstValue
  rcases hmoved : r.read c with ⟨_ | _ | _, r', c'⟩ <;> rw [hmoved] at hread
  · exact hread.then (r'.work_dispose c')
  · exact hread.then (r'.work_close c')
  · have hvalue := hread.then (r'.quiet_value 0 c')
    simp only
    rcases htold : r'.value 0 c' with ⟨_ | v, c''⟩ <;> rw [htold] at hvalue
    · exact hvalue.then (r'.work_dispose c'')
    · exact hvalue.then (r'.work_close c'')

/-- Planning is quiet. -/
theorem work_prepare (cmd : Command) (c : Connection Scripted) : Work [] [] c (cmd.prepare c).2.2 := by
  unfold prepare
  split
  · exact .refl c
  split
  · exact .refl c
  · exact (Work.refl c).emit _ rfl rfl

/-- Preparing a statement is quiet. -/
theorem quiet_prepareStatement (plan : Plan) :
    Quiet (prepareStatement plan : Action Scripted (Prepared Scripted)) := by
  have hprepare : Quiet (Connection.onExecutor (Executor.prepare plan.sql plan.oids)) :=
    fun c => work_onExecutor (performs_prepare plan.sql plan.oids c.executor) rfl
  exact hprepare.bind fun _ => (quiet_emit rfl rfl).bind fun _ => quiet_pure _

/-- Binding parameters is quiet. -/
theorem quiet_bindParameters (plan : Plan) (ps : Parameters) :
    Quiet (bindParameters plan ps : Action Scripted (List (Executor.Place Scripted))) :=
  fun c => work_onExecutor (performs_bindPlaces _ c.executor) rfl

/-- A prepared statement has the text of its plan. -/
theorem sql_of_prepareStatement {plan : Plan} {statement : Prepared Scripted}
    (h : prepareStatement plan c = (.ok statement, c')) : statement.handle.sql = plan.sql := by
  rcases hprepare : Executor.prepare plan.sql plan.oids c.executor with ⟨result, s⟩
  obtain ⟨c₁, -, hprepared⟩ := exists_prepareStatement hprepare
  rw [hprepared] at h
  cases result with
  | error e => cases h
  | ok handle =>
    cases h
    exact sql_of_prepare hprepare

/-- A cursor that is opened is logged. -/
theorem audited_openCursor (plan : Plan) (ps : Parameters) (c : Connection Scripted) :
    Audited (openedBy plan.sql (openCursor plan ps c).1) c (openCursor plan ps c).2 := by
  refine (quiet_prepareStatement plan).bind_cases (P := fun r => Audited (openedBy plan.sql r.1) c r.2)
    (fun _ _ hfailed => hfailed.audited) ?_
  intro statement c₁ hprepared hprepare
  rw [← sql_of_prepareStatement hprepared]
  refine (quiet_bindParameters plan ps).bind_cases (P := fun r => Audited (openedBy statement.handle.sql r.1) c r.2)
    (fun _ _ hfailed => (hprepare.then hfailed).audited) ?_
  intro places c₂ _ hbind
  have hopen : Work (openedBy statement.handle.sql
      (Connection.onExecutor (Executor.openCursor statement.handle places) c₂).1) [] c
      (Connection.onExecutor (Executor.openCursor statement.handle places) c₂).2 :=
    (hprepare.then hbind).trans (work_onExecutor (performs_openCursor statement.handle places c₂.executor) rfl)
  rcases hopened : Connection.onExecutor (Executor.openCursor statement.handle places) c₂ with ⟨_ | cursor, c₃⟩ <;>
    rw [hopened] at hopen
  · simp only [Step.bind_of_error hopened]
    exact Work.audited hopen
  · simp only [Step.bind_of_ok hopened]
    exact hopen.audited_logStatement

/-- What is run to completion is not logged at once. -/
theorem work_run (plan : Plan) (ps : Parameters) (options : Options) (c : Connection Scripted) :
    Work (executedBy plan.sql (run plan ps options c).1) [] c (run plan ps options c).2 := by
  by_cases hoids : plan.oids.isEmpty
  · have hrun : (run plan ps options : Action Scripted Nat) = _ := if_pos hoids
    rw [hrun]
    exact work_onExecutor (performs_execute plan.sql options.readOnly options.countLimit c.executor) rfl
  · have hrun : (run plan ps options : Action Scripted Nat) = _ := if_neg hoids
    rw [hrun]
    refine (quiet_prepareStatement plan).bind_cases (P := fun r => Work (executedBy plan.sql r.1) [] c r.2)
      (fun _ _ hfailed => hfailed) ?_
    intro statement c₁ hprepared hprepare
    rw [← sql_of_prepareStatement hprepared]
    refine (quiet_bindParameters plan ps).bind_cases
      (P := fun r => Work (executedBy statement.handle.sql r.1) [] c r.2)
      (fun _ _ hfailed => hprepare.then hfailed) ?_
    intro places c₂ _ hbind
    exact (hprepare.then hbind).trans
      (work_onExecutor (performs_executePrepared statement.handle places c₂.executor) rfl)

/-- Asking for a context is quiet. -/
theorem work_asked (c : Connection Scripted) : Work [] [] c c.asked :=
  work_onExecutor (f := Executor.ready) (performs_ready c.executor) rfl

/-- A cursor that is opened in a context is logged. -/
theorem audited_opening (plan : Plan) (ps : Parameters) (c : Connection Scripted) :
    Audited (openedBy plan.sql (Connection.opening (openCursor plan ps) c).1) c
      (Connection.opening (openCursor plan ps) c).2 := by
  have hopen := (audited_openCursor plan ps c.asked).after (work_asked c)
  rcases Connection.opening_cases (openCursor plan ps) c with
    ⟨-, h⟩ | ⟨-, ⟨r, c', hopened, h⟩ | ⟨e, c', hopened, h⟩⟩
  · rw [h]
    exact (work_asked c).audited
  · rw [h]
    rwa [hopened] at hopen
  -- Without a cursor nothing has been achieved, so that the context may be ended.
  · rw [h]
    rw [hopened] at hopen
    exact hopen.trans (work_release c').audited

/-- What is run to completion within a context has been achieved before the context is ended, and is not yet logged.
-/
theorem work_within (plan : Plan) (ps : Parameters) (options : Options) (c : Connection Scripted) :
    Work (executedBy plan.sql (Connection.within (run plan ps options) c).1) [] c
      (Connection.within (run plan ps options) c).2 := by
  rcases Connection.within_cases (run plan ps options) c with ⟨-, h⟩ | ⟨-, h⟩
  · rw [h]
    exact work_asked c
  · rw [h]
    exact ((work_asked c).trans (work_run plan ps options c.asked)).release

/-- A command that runs to completion is logged, if it does. -/
theorem exists_audited_executeNonQuery (cmd : Command) (c : Connection Scripted) :
    ∃ sql, Audited (executedBy sql (cmd.executeNonQuery c).1) c (cmd.executeNonQuery c).2.2 := by
  have hprepare := cmd.work_prepare c
  unfold executeNonQuery
  rcases hplanned : cmd.prepare c with ⟨_ | plan, cmd', c'⟩ <;> rw [hplanned] at hprepare
  · exact ⟨"", hprepare.audited⟩
  have hrun := hprepare.trans (work_within plan cmd'.parameters c'.options c')
  refine ⟨plan.sql, ?_⟩
  simp only
  rcases hwithin : Connection.within (run plan cmd'.parameters c'.options) c' with ⟨_ | n, c''⟩ <;>
    rw [hwithin] at hrun
  · exact Work.audited hrun
  -- The context has been ended by now, and only then the execution is logged.
  · exact hrun.audited_logStatement

/-- A query is logged if its cursor is opened, and any other text if it runs to completion. -/
theorem exists_audited_executeReader (cmd : Command) (c : Connection Scripted) :
    ∃ sql, Audited
      (if cmd.isQuery then openedBy sql (cmd.executeReader c).1 else executedBy sql (cmd.executeNonQuery c).1) c
      (cmd.executeReader c).2.2 := by
  unfold executeReader
  split
  · have hprepare := cmd.work_prepare c
    rcases hplanned : cmd.prepare c with ⟨_ | plan, cmd', c'⟩ <;> rw [hplanned] at hprepare
    · exact ⟨"", hprepare.audited⟩
    · exact ⟨plan.sql, (audited_opening plan cmd'.parameters c').after hprepare⟩
  · obtain ⟨sql, haudited⟩ := cmd.exists_audited_executeNonQuery c
    refine ⟨sql, ?_⟩
    rcases hexecuted : cmd.executeNonQuery c with ⟨_ | n, cmd', c'⟩ <;> rw [hexecuted] at haudited
    · exact haudited
    · exact haudited

/-- An execution for a single value is logged as the one for a reader. -/
theorem exists_audited_executeScalar (cmd : Command) (c : Connection Scripted) :
    ∃ achieved, Audited achieved c (cmd.executeScalar c).2.2 := by
  obtain ⟨sql, haudited⟩ := cmd.exists_audited_executeReader c
  unfold executeScalar
  rcases hread : cmd.executeReader c with ⟨_ | r, cmd', c'⟩ <;> rw [hread] at haudited
  · exact ⟨_, haudited⟩
  · exact ⟨_, haudited.trans (work_firstValue r c').audited⟩

/-- Any request to a command is logged as what it has achieved. -/
theorem exists_audited_answer (cmd : Command) (c : Connection Scripted) (request : CommandRequest) :
    ∃ achieved, Audited achieved c (cmd.answer c request).2.2 := by
  have hnothing : ∃ achieved, Audited achieved c c := ⟨[], (Work.refl c).audited⟩
  cases request with
  | prepare => exact ⟨[], (cmd.work_prepare c).audited⟩
  | nonQuery =>
    obtain ⟨sql, haudited⟩ := cmd.exists_audited_executeNonQuery c
    exact ⟨_, haudited⟩
  | scalar => exact cmd.exists_audited_executeScalar c
  | reader requests =>
    obtain ⟨sql, haudited⟩ := cmd.exists_audited_executeReader c
    simp only [answer]
    rcases hread : cmd.executeReader c with ⟨_ | r, cmd', c'⟩ <;> rw [hread] at haudited
    · exact ⟨_, haudited⟩
    · have hanswered := haudited.trans (r.work_answerAll c' requests).audited
      exact ⟨_, hanswered.trans (Reader.work_dispose _ _).audited⟩
  | setText text =>
    simp only [answer]
    cases cmd.setText text <;> exact hnothing
  | edit request =>
    simp only [answer]
    rcases cmd.parameters.answer request with ⟨reply, ps⟩
    -- Planning is logged, too, but not as a statement.
    cases reply with
    | plan plan =>
      have htold := (Work.refl c).emit (.planned plan.sql plan.oids.length) rfl rfl
      exact ⟨[], htold.audited⟩
    | error | done | parameter | position | flags | size | style | all => exact hnothing
  | text | isQuery | withParameter | withValue | parameters => exact hnothing

/-- Any requests to a command are logged as what they have achieved. -/
theorem exists_audited_answerAll (cmd : Command) (c : Connection Scripted) (requests : List CommandRequest) :
    ∃ achieved, Audited achieved c (cmd.answerAll c requests).2.2 := by
  induction requests generalizing cmd c with
  | nil => exact ⟨[], (Work.refl c).audited⟩
  | cons request rest ih =>
    obtain ⟨first, hfirst⟩ := cmd.exists_audited_answer c request
    obtain ⟨more, hmore⟩ := ih (cmd.answer c request).2.1 (cmd.answer c request).2.2
    exact ⟨first ++ more, hfirst.trans hmore⟩

end Command

/-! ## Connections -/

namespace Connection

/-- What requests to a connection achieve, each by the calls that are recorded while it is carried out. -/
def achievements (c : Connection Scripted) : List (ConnectionRequest Instruction) → List Achievement
  | [] => []
  | request :: rest =>
    let c' := (answer follow c request).2
    Scripted.achieved c.executor c'.executor ++ achievements c' rest

/-- Opening the connection is quiet. -/
theorem quiet_connect : Quiet (connect : Action Scripted Unit) := by
  have hready : Quiet (checkReady : Action Scripted Unit) := Command.work_asked
  refine hready.bind fun _ c => ?_
  have hopen : Work [] [] c { c with isOpen := true } := .of_eq rfl rfl rfl
  exact hopen.emit .connectionOpened rfl rfl

/-- Any request but an instruction is logged as what it has achieved. -/
theorem exists_audited_answer (c : Connection Scripted) {request : ConnectionRequest Instruction}
    (hrequest : ∀ instruction, request ≠ .instruct instruction) :
    ∃ achieved, Audited achieved c (answer follow c request).2 := by
  cases request with
  | connect =>
    have hconnect := (quiet_connect c).audited
    simp only [answer]
    rcases hopened : connect c with ⟨_ | _, c'⟩ <;> rw [hopened] at hconnect
    · exact ⟨[], hconnect⟩
    · exact ⟨[], hconnect⟩
  | close =>
    have hclosed : Work [] [] c c.close := .of_eq rfl rfl rfl
    exact ⟨[], hclosed.audited⟩
  | instruct instruction => exact absurd rfl (hrequest instruction)
  | command text requests =>
    simp only [answer]
    cases Command.create text with
    | error e => exact ⟨[], (Work.refl c).audited⟩
    | ok cmd => exact cmd.exists_audited_answerAll c requests
  | isOpen | options => exact ⟨[], (Work.refl c).audited⟩

/-- An instruction achieves nothing. -/
theorem achieved_follow (instruction : Instruction) (s : Scripted) :
    Scripted.achieved s (follow instruction s) = [] := by
  have hcalls : (follow instruction s).calls = s.calls := by
    cases instruction <;> rfl
  unfold Scripted.achieved
  rw [hcalls, List.drop_length]
  rfl

/-- A request is logged as what it achieves. -/
theorem logs_answer (c : Connection Scripted) (request : ConnectionRequest Instruction) :
    Logs (c.options.eventsOf (Scripted.achieved c.executor (answer follow c request).2.executor)) c
      (answer follow c request).2 := by
  by_cases hrequest : ∃ instruction, request = .instruct instruction
  · obtain ⟨instruction, rfl⟩ := hrequest
    simp only [answer]
    rw [achieved_follow, Options.eventsOf_nil]
    refine logs_of_log_eq rfl rfl ?_
    cases instruction <;> rfl
  · obtain ⟨achieved, haudited⟩ := c.exists_audited_answer (not_exists.1 hrequest)
    exact haudited.logs

/-- Requests are logged as what they achieve, one after the other. -/
theorem logs_answerAll (c : Connection Scripted) (requests : List (ConnectionRequest Instruction)) :
    Logs (c.options.eventsOf (c.achievements requests)) c (answerAll follow c requests).2 := by
  induction requests generalizing c with
  | nil =>
    rw [achievements, Options.eventsOf_nil]
    exact logs_of_log_eq rfl rfl rfl
  | cons request rest ih =>
    have hfirst := c.logs_answer request
    have hrest := ih (answer follow c request).2
    rw [hfirst.options_eq] at hrest
    rw [achievements, Options.eventsOf_append]
    exact hfirst.trans hrest

/-- An execution that fails and is tried again achieves something once. -/
example :
    let c : Connection Scripted := { executor := { failures := [⟨.execute, 1, "busy"⟩], affected := [3] } }
    c.achievements [.command "delete from t" [.nonQuery, .nonQuery], .command "select 1" [.reader [.read]]]
      = [.executed "delete from t" 3, .opened "select 1"] := by
  rfl

/-- The log of statements is faithful. Whatever the executor has been told to answer and whatever is asked of the
connection, the events that tell of opened cursors and executed statements are those of the cursors that the calls of
the executor have opened and of the statements that they have executed, in this order, at the level of the options;
if the options give none there are no such events. As many contexts are told to have been released as have been ended.
An execution to completion has achieved what it answers, and one for a reader has, for a query, opened a cursor if there
is a reader. -/
theorem statement_log_faithful (c : Connection Scripted) (requests : List (ConnectionRequest Instruction)) :
    (∃ events, (answerAll follow c requests).2.log = c.log ++ events ∧
        events.filter Event.isStatement = c.options.eventsOf (c.achievements requests)) ∧
      (answerAll follow c requests).2.log.countP Event.isReleased + c.executor.finishCount
        = c.log.countP Event.isReleased + (answerAll follow c requests).2.executor.finishCount ∧
      (∀ (cmd : Command) (c : Connection Scripted), ∃ sql,
        Scripted.achieved c.executor (cmd.executeNonQuery c).2.2.executor
          = Scripted.executedBy sql (cmd.executeNonQuery c).1) ∧
      ∀ (cmd : Command) (c : Connection Scripted), ∃ sql,
        Scripted.achieved c.executor (cmd.executeReader c).2.2.executor
          = if cmd.isQuery then Scripted.openedBy sql (cmd.executeReader c).1
            else Scripted.executedBy sql (cmd.executeNonQuery c).1 := by
  have hlogs := c.logs_answerAll requests
  refine ⟨hlogs.events, hlogs.released, ?_, ?_⟩
  · intro cmd c
    obtain ⟨sql, haudited⟩ := cmd.exists_audited_executeNonQuery c
    exact ⟨sql, haudited.achieved_eq⟩
  · intro cmd c
    obtain ⟨sql, haudited⟩ := cmd.exists_audited_executeReader c
    exact ⟨sql, haudited.achieved_eq⟩

end Connection

end InProcessSql
