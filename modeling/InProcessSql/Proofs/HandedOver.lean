import InProcessSql.Proofs.Executor.Answers
import InProcessSql.Proofs.Executor.Datums
import InProcessSql.Proofs.Plans
import InProcessSql.Proofs.RespectedRelations
import InProcessSql.Proofs.Sessions

/-!
# What the executor is handed

An execution hands the executor a text and, if there are parameters or the rows are read, the types of the
parameters and their values. `HandsOver` lists the calls for it, and `Command.handsOver_answer` says that
each execution makes these calls with the plan and the parameters that the command has at the time,
whatever it has been asked for before.
-/

namespace InProcessSql

open Scripted

/-! ## The calls of an execution -/

/-- Whether a call is one of those that readers make. -/
def Call.isOfReader : Call → Bool
  | .fetch | .dimensions | .columns | .currentRow | .finish => true
  | _ => false

/-- The calls of an execution that the executor accepts, given whether it opens a cursor and whether
preparing fails. -/
inductive HandsOver (plan : Plan) (ps : Parameters) (options : Options) : Bool → Bool → List Call → Prop
  | executed {failing : Bool} (hps : ps.toList = []) : HandsOver plan ps options false failing
    [.ready, .execute plan.sql options.readOnly options.countLimit, .finish]
  | prepareFailed {cursor : Bool} (h : cursor = true ∨ ps.toList ≠ []) : HandsOver plan ps options cursor true
    [.ready, .prepare plan.sql plan.oids, .finish]
  | executedPrepared (hps : ps.toList ≠ []) : HandsOver plan ps options false false
    [.ready, .prepare plan.sql plan.oids, .executePrepared plan.sql (ps.toList.map Parameter.value), .finish]
  | cursorOpened {later : List Call} (hlater : ∀ call ∈ later, call.isOfReader = true) :
    HandsOver plan ps options true false
      (.ready :: .prepare plan.sql plan.oids :: .openCursor plan.sql (ps.toList.map Parameter.value) :: later)

/-- The second state is reached from the first by calls that readers make. -/
def ReadsTo (s t : Scripted) : Prop :=
  ∃ calls, Records calls s t ∧ ∀ call ∈ calls, call.isOfReader = true

/-- A single call of a reader is one that readers make. -/
theorem ReadsTo.single {call : Call} {s t : Scripted} (h : Records [call] s t)
    (hcall : call.isOfReader = true) : ReadsTo s t :=
  ⟨[call], h, by simpa using hcall⟩

/-- Readers make the calls of readers only. -/
theorem rowsRespect_readsTo : RowsRespect ReadsTo where
  refl s := ⟨[], .refl s, by simp⟩
  trans := by
    rintro s t u ⟨earlier, h, hearlier⟩ ⟨later, h', hlater⟩
    refine ⟨earlier ++ later, h.trans h', ?_⟩
    intro call hcall
    exact (List.mem_append.1 hcall).elim (hearlier call) (hlater call)
  fetch cursor s := .single (records_fetch cursor s) rfl
  dimensions s := .single (records_dimensions s) rfl
  columns count s := .single (records_columns count s) rfl
  currentRow places s := .single (records_currentRow places s) rfl
  readDatum datum oid s := ⟨[], records_readDatum datum oid s, by simp⟩
  finish s := .single (records_finish s) rfl

namespace Command

/-! ## Statements -/

/-- The calls that prepare a statement, followed by another call unless preparing fails. -/
def preparedCalls (plan : Plan) (failing : Bool) (call : Call) : List Call :=
  .prepare plan.sql plan.oids :: if failing then [] else [call]

/-- A prepared statement has the text of the plan, and is handed the values of the parameters. -/
theorem handed_of_bound {plan : Plan} {ps : Parameters} {s t u : Scripted}
    {handle : Executor.Statement Scripted} {places : List (Executor.Place Scripted)} (hfits : plan.Fits ps)
    (hprepare : Executor.prepare plan.sql plan.oids s = (.ok handle, t))
    (hbind : bindPlaces (ps.bindings plan.oids) t = (.ok places, u)) :
    handle.sql = plan.sql ∧ places.map u.placeValue = ps.toList.map Parameter.value := by
  obtain ⟨places', u', hbind', -, hstands⟩ := exists_bindPlaces (ps.bindings plan.oids) t
  rw [hbind] at hbind'
  cases hbind'
  refine ⟨sql_of_prepare hprepare, ?_⟩
  rw [map_placeValue_eq hstands, hfits.map_fst_bindings]

/-- Preparing fails exactly if a failure of it waits. -/
theorem waiting?_of_prepare {s t : Scripted} {sql : String} {oids : List Oid}
    {result : Except Error (Executor.Statement Scripted)}
    (h : Executor.prepare sql oids s = (result, t)) :
    (s.waiting? .prepare).isSome = true ↔ ∃ e, result = .error e := by
  rcases prepare_cases h with ⟨f, hwaiting, rfl, -⟩ | ⟨hwaiting, rfl, -⟩
  · simp [hwaiting]
  · simp [hwaiting]

/-- A reader is only there if preparing has not failed. -/
theorem waiting?_of_opened {plan : Plan} {bindings : List (Value × Oid)} {s t : Scripted}
    {r : Reader Scripted} (h : Opening plan bindings s (.ok r) t) :
    (s.waiting? .prepare).isSome = false := by
  cases h with
  | opened hprepare =>
    rw [Bool.eq_false_iff, Ne, waiting?_of_prepare hprepare]
    rintro ⟨e, he⟩
    cases he

/-- Where preparing fails, its call is the last. -/
theorem records_of_prepareFailed {plan : Plan} {s t : Scripted} {e : Error}
    (hprepare : Executor.prepare plan.sql plan.oids s = (.error e, t)) (call : Call) :
    Records (preparedCalls plan (s.waiting? .prepare).isSome call) s t := by
  rw [preparedCalls, (waiting?_of_prepare hprepare).2 ⟨e, rfl⟩]
  exact (records_prepare plan.sql plan.oids s).of_eq hprepare

theorem records_of_prepared {plan : Plan} {bindings : List (Value × Oid)} {s t u v : Scripted}
    {handle : Executor.Statement Scripted} {places : List (Executor.Place Scripted)} {call : Call}
    (hprepare : Executor.prepare plan.sql plan.oids s = (.ok handle, t))
    (hbind : bindPlaces bindings t = (.ok places, u)) (hcall : Records [call] u v) :
    Records (preparedCalls plan (s.waiting? .prepare).isSome call) s v := by
  have hnone : (s.waiting? .prepare).isSome = false := by
    rw [Bool.eq_false_iff, Ne, waiting?_of_prepare hprepare]
    rintro ⟨e, he⟩
    cases he
  rw [preparedCalls, hnone]
  exact (records_of_bound hprepare hbind).trans hcall

/-- Opening a cursor prepares the plan, and unless that fails hands the values over with the cursor. -/
theorem records_of_opening {plan : Plan} {ps : Parameters} {s t : Scripted}
    {result : Except Error (Reader Scripted)} (hfits : plan.Fits ps)
    (h : Opening plan (ps.bindings plan.oids) s result t) :
    Records (preparedCalls plan (s.waiting? .prepare).isSome
      (.openCursor plan.sql (ps.toList.map Parameter.value))) s t := by
  cases h with
  | prepareFailed hprepare => exact records_of_prepareFailed hprepare _
  | bindFailed hprepare hbind => exact absurd hbind (bindPlaces_ne_error _ _ _ _)
  | openFailed hprepare hbind hopen =>
    obtain ⟨hsql, hvalues⟩ := handed_of_bound hfits hprepare hbind
    rw [← hsql, ← hvalues]
    exact records_of_prepared hprepare hbind ((records_openCursor _ _ _).of_eq hopen)
  | opened hprepare hbind hopen =>
    obtain ⟨hsql, hvalues⟩ := handed_of_bound hfits hprepare hbind
    rw [← hsql, ← hvalues]
    exact records_of_prepared hprepare hbind ((records_openCursor _ _ _).of_eq hopen)

/-- Without parameters the text is executed; with some it is prepared, and unless that fails the values are
handed over. -/
theorem records_of_running {plan : Plan} {ps : Parameters} {options : Options} {s t : Scripted}
    {result : Except Error Nat} (hfits : plan.Fits ps)
    (h : Running plan (ps.bindings plan.oids) options s result t) :
    (ps.toList = [] ∧ Records [.execute plan.sql options.readOnly options.countLimit] s t) ∨
      ps.toList ≠ [] ∧ Records (preparedCalls plan (s.waiting? .prepare).isSome
        (.executePrepared plan.sql (ps.toList.map Parameter.value))) s t := by
  cases h with
  | executed hoids hexecute =>
    exact .inl ⟨hfits.oids_eq_nil_iff.1 hoids, (records_execute _ _ _ s).of_eq hexecute⟩
  | prepareFailed hoids hprepare =>
    exact .inr ⟨mt hfits.oids_eq_nil_iff.2 hoids, records_of_prepareFailed hprepare _⟩
  | bindFailed hoids hprepare hbind => exact absurd hbind (bindPlaces_ne_error _ _ _ _)
  | executedPrepared hoids hprepare hbind hexecute =>
    obtain ⟨hsql, hvalues⟩ := handed_of_bound hfits hprepare hbind
    refine .inr ⟨mt hfits.oids_eq_nil_iff.2 hoids, ?_⟩
    rw [← hsql, ← hvalues]
    exact records_of_prepared hprepare hbind ((records_executePrepared _ _ _).of_eq hexecute)

/-! ## Executions -/

variable {cmd cmd' : Command} {c c' : Connection Scripted} {plan : Plan}

/-- What planning leaves as it is. -/
theorem kept_of_prepare (hprepare : cmd.prepare c = (.ok plan, cmd', c')) :
    c'.executor = c.executor ∧ c'.options = c.options := by
  rw [prepare] at hprepare
  split at hprepare
  · cases hprepare
    exact ⟨rfl, rfl⟩
  · split at hprepare
    · cases hprepare
    · cases hprepare
      exact ⟨rfl, rfl⟩

/-- An execution to completion leaves the executor as running its plan within a context does. -/
theorem executor_executeNonQuery (hprepare : cmd.prepare c = (.ok plan, cmd', c')) :
    (cmd.executeNonQuery c).2.2.executor
      = (Connection.within (run plan cmd'.parameters c'.options) c').2.executor := by
  rw [executeNonQuery, hprepare]
  simp only
  rcases Connection.within (run plan cmd'.parameters c'.options) c' with ⟨_ | n, c''⟩
  · rfl
  · exact Connection.executor_logStatement _ _

/-- A command that runs to completion hands its plan over. -/
theorem handsOver_executeNonQuery (hfits : plan.Fits cmd.parameters)
    (hparameters : cmd'.parameters = cmd.parameters) (hprepare : cmd.prepare c = (.ok plan, cmd', c'))
    (hready : c.executor.isReady = true) :
    ∃ calls, HandsOver plan cmd.parameters c.options false (c.executor.waiting? .prepare).isSome calls ∧
      Records calls c.executor (cmd.executeNonQuery c).2.2.executor := by
  obtain ⟨hexecutor, hoptions⟩ := kept_of_prepare hprepare
  rw [executor_executeNonQuery hprepare, hparameters, hoptions]
  rw [← hexecutor] at hready ⊢
  rcases Connection.within_cases (run plan cmd.parameters c.options) c' with
    ⟨hrefused, -⟩ | ⟨-, hwithin⟩
  · cases hready.symm.trans hrefused
  rw [hwithin]
  -- Around the calls of the run there are the question for a context and the end of it.
  have hended : ∀ calls, Records calls c'.asked.executor
      (run plan cmd.parameters c.options c'.asked).2.executor →
      Records (.ready :: calls ++ [.finish]) c'.executor
        (run plan cmd.parameters c.options c'.asked).2.release.executor :=
    fun calls h => ((records_asked c').trans h).trans (records_release _)
  rcases records_of_running hfits (running_run plan cmd.parameters c.options c'.asked) with
    ⟨hps, hrecords⟩ | ⟨hps, hrecords⟩
  · exact ⟨_, .executed hps, hended _ hrecords⟩
  · refine ⟨_, ?_, hended _ hrecords⟩
    show HandsOver plan cmd.parameters c.options false (c'.executor.waiting? .prepare).isSome
      (.ready :: preparedCalls plan (c'.executor.waiting? .prepare).isSome _ ++ [.finish])
    cases (c'.executor.waiting? .prepare).isSome with
    | true => exact .prepareFailed (.inr hps)
    | false => exact .executedPrepared hps

/-- What is done with a reader, on its connection, that only reads on and does nothing without a cursor. -/
structure ReadsOn (work : Reader Scripted → Connection Scripted → Connection Scripted) : Prop where
  readsTo : ∀ r c, ReadsTo c.executor (work r c).executor
  inactive : ∀ r c, ¬ r.IsActive → (work r c).executor = c.executor

/-- The connection after a reader that an execution answers has been worked on. -/
def afterReader (work : Reader Scripted → Connection Scripted → Connection Scripted) :
    Except Error (Reader Scripted) × Command × Connection Scripted → Connection Scripted
  | (.ok r, _, c) => work r c
  | (.error _, _, c) => c

/-- A query hands its plan over, and its reader then only reads on. -/
theorem handsOver_of_isQuery {work : Reader Scripted → Connection Scripted → Connection Scripted}
    (hwork : ReadsOn work) (hfits : plan.Fits cmd.parameters) (hquery : cmd.isQuery = true)
    (hparameters : cmd'.parameters = cmd.parameters) (hprepare : cmd.prepare c = (.ok plan, cmd', c'))
    (hready : c.executor.isReady = true) :
    ∃ calls, HandsOver plan cmd.parameters c.options true (c.executor.waiting? .prepare).isSome calls ∧
      Records calls c.executor (afterReader work (cmd.executeReader c)).executor := by
  obtain ⟨hexecutor, -⟩ := kept_of_prepare hprepare
  have hexecute : cmd.executeReader c = ((Connection.opening (openCursor plan cmd.parameters) c').1, cmd',
      (Connection.opening (openCursor plan cmd.parameters) c').2) := by
    rw [executeReader, if_pos hquery, hprepare]
    simp only [hparameters]
  rw [hexecute]
  rw [← hexecutor] at hready ⊢
  have hopening := opening_openCursor plan cmd.parameters c'.asked
  have hrecords := (records_asked c').trans (records_of_opening hfits hopening)
  -- The question for a context uses no failure up.
  have hwaiting : c'.asked.executor.waiting? .prepare = c'.executor.waiting? .prepare := rfl
  rw [hwaiting] at hrecords
  rcases Connection.opening_cases (openCursor plan cmd.parameters) c' with
    ⟨hrefused, -⟩ | ⟨-, ⟨r, c'', hopen, hkept⟩ | ⟨e, c'', hopen, hended⟩⟩
  · cases hready.symm.trans hrefused
  · rw [hopen] at hopening hrecords
    obtain ⟨later, hlater, hreads⟩ := hwork.readsTo r c''
    have hnone := waiting?_of_opened hopening
    rw [hwaiting] at hnone
    rw [hnone] at hrecords ⊢
    rw [hkept]
    exact ⟨_, .cursorOpened hreads, hrecords.trans hlater⟩
  · rw [hopen] at hrecords
    rw [hended]
    refine ⟨_, ?_, hrecords.trans (records_release c'')⟩
    cases (c'.executor.waiting? .prepare).isSome with
    | true => exact .prepareFailed (.inl rfl)
    | false => exact .cursorOpened (by simp [Call.isOfReader])

/-- A command that is executed for a reader hands its plan over, and the reader then only reads on. -/
theorem handsOver_executeReader {work : Reader Scripted → Connection Scripted → Connection Scripted}
    (hwork : ReadsOn work) (hfits : plan.Fits cmd.parameters)
    (hparameters : cmd'.parameters = cmd.parameters) (hprepare : cmd.prepare c = (.ok plan, cmd', c'))
    (hready : c.executor.isReady = true) :
    ∃ calls, HandsOver plan cmd.parameters c.options cmd.isQuery (c.executor.waiting? .prepare).isSome calls ∧
      Records calls c.executor (afterReader work (cmd.executeReader c)).executor := by
  cases hquery : cmd.isQuery with
  | true => exact handsOver_of_isQuery hwork hfits hquery hparameters hprepare hready
  | false =>
    obtain ⟨calls, hcalls, hrecords⟩ := handsOver_executeNonQuery hfits hparameters hprepare hready
    refine ⟨calls, hcalls, ?_⟩
    -- The reader of such a command has no cursor, so that the work on it records nothing.
    have hsame : (afterReader work (cmd.executeReader c)).executor = (cmd.executeNonQuery c).2.2.executor := by
      rw [executeReader, if_neg (by simp [hquery])]
      rcases hexecuted : cmd.executeNonQuery c with ⟨_ | n, cmd'', c''⟩
      · rfl
      · exact hwork.inactive _ c'' (Reader.not_isActive_ofAffected n)
    rwa [hsame]

/-! ## Requests -/

/-- Taking the first value only reads on, whatever it finds. -/
theorem readsOn_firstValue : ReadsOn fun r c => (firstValue r c).2 where
  readsTo r c := rowsRespect_readsTo.firstValue r c
  inactive r c h := by
    rcases r.read_cases c with ⟨-, hread⟩ | ⟨statement, cursor, row, hphase, -⟩
    · simp only [firstValue, hread, Reader.close_of_not_isActive h]
    · exact absurd ⟨statement, cursor, row, hphase⟩ h

/-- Any requests to a reader only read on, and so does giving it up. -/
theorem readsOn_answerAll (requests : List ReaderRequest) :
    ReadsOn fun r c => (r.answerAll c requests).2.1.dispose (r.answerAll c requests).2.2 where
  readsTo r c :=
    rowsRespect_readsTo.trans (rowsRespect_readsTo.answerAll r c requests)
      (rowsRespect_readsTo.dispose _ _)
  inactive r c h := by
    obtain ⟨hinactive, hsame⟩ := r.answerAll_of_not_isActive h c requests
    rw [Reader.dispose_of_not_isActive hinactive, hsame]

end Command

/-- Whether a request executes a command. -/
def CommandRequest.isExecution : CommandRequest → Bool
  | .nonQuery | .scalar | .reader _ => true
  | _ => false

/-- Whether an execution opens a cursor. -/
def CommandRequest.opensCursor (request : CommandRequest) (cmd : Command) : Bool :=
  match request with
  | .scalar | .reader _ => cmd.isQuery
  | _ => false

namespace Command

/-- An execution hands over the plan and the parameters, in whichever form it is asked for. -/
theorem handsOver_answer {cmd cmd' : Command} {c c' : Connection Scripted} {plan : Plan}
    {request : CommandRequest} (hexecution : request.isExecution = true) (hfits : plan.Fits cmd.parameters)
    (hparameters : cmd'.parameters = cmd.parameters) (hprepare : cmd.prepare c = (.ok plan, cmd', c'))
    (hready : c.executor.isReady = true) :
    ∃ calls, HandsOver plan cmd.parameters c.options (request.opensCursor cmd)
        (c.executor.waiting? .prepare).isSome calls ∧
      Records calls c.executor (cmd.answer c request).2.2.executor := by
  cases request with
  | nonQuery => exact handsOver_executeNonQuery hfits hparameters hprepare hready
  | scalar =>
    have hsame : (cmd.answer c .scalar).2.2
        = afterReader (fun r c => (firstValue r c).2) (cmd.executeReader c) := by
      simp only [answer, executeScalar]
      rcases cmd.executeReader c with ⟨_ | r, cmd'', c''⟩ <;> rfl
    rw [hsame]
    exact handsOver_executeReader readsOn_firstValue hfits hparameters hprepare hready
  | reader requests =>
    have hsame : (cmd.answer c (.reader requests)).2.2 = afterReader
        (fun r c => (r.answerAll c requests).2.1.dispose (r.answerAll c requests).2.2)
        (cmd.executeReader c) := by
      simp only [answer]
      rcases cmd.executeReader c with ⟨_ | r, cmd'', c''⟩ <;> rfl
    rw [hsame]
    exact handsOver_executeReader (readsOn_answerAll requests) hfits hparameters hprepare hready
  | _ => cases hexecution

/-- Whatever a command has been asked for before, an execution that the executor accepts records the calls
with which its plan is handed over, and no others. The plan has the type and the OID of each parameter, and
has been made of the text of the command, or was kept with this text. -/
theorem handsOver_execution {text : String} {cmd₀ cmd cmd' : Command} {c₀ c c' : Connection Scripted}
    {earlier : List CommandRequest} {request : CommandRequest} {plan : Plan}
    (hcreate : create text = .ok cmd₀) (hearlier : (cmd₀.answerAll c₀ earlier).2.1 = cmd)
    (hexecution : request.isExecution = true) (hprepare : cmd.prepare c = (.ok plan, cmd', c'))
    (hready : c.executor.isReady = true) :
    ∃ calls, HandsOver plan cmd.parameters c.options (request.opensCursor cmd)
        (c.executor.waiting? .prepare).isSome calls ∧
      (cmd.answer c request).2.2.executor.calls = c.executor.calls ++ calls ∧
      plan.Fits cmd.parameters ∧ cmd.Current plan ∧
      (cmd.parameters.toList = [] → plan.sql = cmd.text) := by
  have hcoherent := coherent_answerAll (coherent_create hcreate) c₀ earlier
  rw [hearlier] at hcoherent
  obtain ⟨hcurrent, -, -, hparameters⟩ := prepare_eq_ok hcoherent hprepare
  obtain ⟨source, hsource, htext⟩ := hcurrent
  have hfits := Plan.fits_of hsource
  obtain ⟨calls, hcalls, hrecords⟩ := handsOver_answer hexecution hfits hparameters hprepare hready
  refine ⟨calls, hcalls, hrecords.calls_eq, hfits, ⟨source, hsource, htext⟩, fun hps => ?_⟩
  split at htext
  · rw [Plan.sql_of_isEmpty hsource hps, htext]
  · exact htext

/-- A connection that has handed out a datum before, and has two results for queries. -/
def reusedConnection : Connection Scripted :=
  { executor := { results := [{}, ⟨⟨[⟨"n", 23⟩]⟩, [[.int4 7]]⟩], datums := [.text "x"] } }

/-- A query that has been executed before, and one of whose parameters has then been set. -/
theorem handsOver_execution_after_set :
    let cmd₀ : Command := { text := "select @a, @b" }
    let cmd : Command := { text := "select $1, $2", parameters := ⟨[.named "a" (.int4 2), .named "b" .null]⟩ }
    let c := reusedConnection
    let plan : Plan := ⟨"select $1, $2", [.scalar .integer, .scalar .unknown], [23, 705]⟩
    create "select @a, @b" = .ok cmd₀ ∧
      (cmd₀.answerAll c [.withParameter "@a" (.int4 1), .withParameter "b" .null, .scalar,
        .edit (.set "A" (.int4 2))]).2.1 = cmd ∧
      (∃ cmd' c', cmd.prepare c = (.ok plan, cmd', c')) ∧
      ∃ calls, HandsOver plan cmd.parameters c.options true false calls ∧
        (cmd.answer c (.reader [.read])).2.2.executor.calls = c.executor.calls ++ calls ∧
        plan.Fits cmd.parameters ∧ cmd.Current plan ∧
        (cmd.parameters.toList = [] → plan.sql = cmd.text) := by
  intro cmd₀ cmd c plan
  have hcreate : create "select @a, @b" = .ok cmd₀ := rfl
  have hearlier : (cmd₀.answerAll c [.withParameter "@a" (.int4 1), .withParameter "b" .null, .scalar,
      .edit (.set "A" (.int4 2))]).2.1 = cmd := by cbv
  have hplan : Plan.of "select $1, $2" ⟨[.named "a" (.int4 2), .named "b" .null]⟩ = .ok plan := by cbv
  have hprepare : cmd.prepare c
      = (.ok plan, { cmd with text := plan.sql, plan := some plan }, c.emit (.planned plan.sql 2)) := by
    simp only [prepare, cmd, hplan]
    rfl
  have hexecution : (CommandRequest.reader [.read]).isExecution = true := rfl
  have hopens : (CommandRequest.reader [.read]).opensCursor cmd = true := by decide +kernel
  obtain ⟨calls, hcalls, hmore⟩ := handsOver_execution hcreate hearlier hexecution hprepare rfl
  rw [hopens] at hcalls
  exact ⟨hcreate, hearlier, ⟨_, _, hprepare⟩, calls, hcalls, hmore⟩

end Command

end InProcessSql
