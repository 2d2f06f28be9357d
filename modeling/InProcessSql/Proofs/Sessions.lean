import InProcessSql.Proofs.Executions
import InProcessSql.Proofs.Executor.Recording

/-!
# Sessions

A command works on the executor in sessions, which start with the question whether statements are accepted
and end as soon as they are refused, or else with the end of the context. `Session` lists the forms of a
session, `Serves` says how far the session of a reader has come, and `exists_sessions_answerAll` says that
the scripted executor records nothing but complete sessions while commands run, whatever it has been told
to answer and wherever a reader is given up.
-/

namespace InProcessSql

open Scripted

/-! ## The calls of a session -/

/-- The calls for the row at that position. The columns are asked for with the first one. -/
def rowCalls (i : Nat) : List Call :=
  if i = 0 then [.fetch, .dimensions, .columns, .currentRow] else [.fetch, .dimensions, .currentRow]

/-- The calls for so many rows. -/
def rowsCalls (n : Nat) : List Call := (List.range n).flatMap rowCalls

/-- The calls of one more row come last. -/
theorem rowsCalls_succ (n : Nat) : rowsCalls (n + 1) = rowsCalls n ++ rowCalls n := by
  simp [rowsCalls, List.range_succ]

/-- The calls that open a cursor. -/
def cursorCalls (sql : String) (oids : List Oid) (values : List Value) : List Call :=
  [.ready, .prepare sql oids, .openCursor sql values]

/-- The complete sessions of an executor that accepts statements or refuses them. Behind the rows of a
cursor there may be a fetch that fails or that finds no row. -/
inductive Session : Bool → List Call → Prop
  | refused : Session false [.ready]
  | executed (sql : String) (readOnly : Bool) (countLimit : Int) :
    Session true [.ready, .execute sql readOnly countLimit, .finish]
  | prepared (sql : String) (oids : List Oid) : Session true [.ready, .prepare sql oids, .finish]
  | executedPrepared (sql : String) (oids : List Oid) (values : List Value) :
    Session true [.ready, .prepare sql oids, .executePrepared sql values, .finish]
  | cursor (sql : String) (oids : List Oid) (values : List Value) (n : Nat) {last : List Call}
    (hlast : last = [] ∨ last = [.fetch] ∨ last = [.fetch, .dimensions]) :
    Session true (cursorCalls sql oids values ++ rowsCalls n ++ last ++ [.finish])

def Call.isReady : Call → Bool
  | .ready => true
  | _ => false

/-- Calls between the question for a context and, if there is one, its end. -/
def Bracketed (ready : Bool) (calls : List Call) : Prop :=
  ∃ body, calls = .ready :: body ++ (if ready then [.finish] else []) ∧
    ∀ call ∈ body, call.isReady = false ∧ call.isFinish = false

/-- Rows neither start nor end a session. -/
theorem isReady_of_mem_rowsCalls {n : Nat} {call : Call} (h : call ∈ rowsCalls n) :
    call.isReady = false ∧ call.isFinish = false := by
  obtain ⟨i, -, hi⟩ := List.mem_flatMap.1 h
  rw [rowCalls] at hi
  split at hi
  · simp only [List.mem_cons, List.not_mem_nil, or_false] at hi
    rcases hi with rfl | rfl | rfl | rfl <;> exact ⟨rfl, rfl⟩
  · simp only [List.mem_cons, List.not_mem_nil, or_false] at hi
    rcases hi with rfl | rfl | rfl <;> exact ⟨rfl, rfl⟩

/-- A session asks for a context once, at its start, and ends it once, at its end. -/
theorem Session.bracketed {ready : Bool} {calls : List Call} (h : Session ready calls) :
    Bracketed ready calls := by
  cases h with
  | refused => exact ⟨[], rfl, by simp⟩
  | executed sql readOnly countLimit =>
    exact ⟨[.execute sql readOnly countLimit], rfl, by simp [Call.isReady, Call.isFinish]⟩
  | prepared sql oids => exact ⟨[.prepare sql oids], rfl, by simp [Call.isReady, Call.isFinish]⟩
  | executedPrepared sql oids values =>
    exact ⟨[.prepare sql oids, .executePrepared sql values], rfl, by simp [Call.isReady, Call.isFinish]⟩
  | @cursor sql oids values n last hlast =>
    refine ⟨[.prepare sql oids, .openCursor sql values] ++ rowsCalls n ++ last, ?_, ?_⟩
    · simp [cursorCalls]
    · intro call hcall
      rcases List.mem_append.1 hcall with hcall | hcall
      · rcases List.mem_append.1 hcall with hcall | hcall
        · simp only [List.mem_cons, List.not_mem_nil, or_false] at hcall
          rcases hcall with rfl | rfl <;> exact ⟨rfl, rfl⟩
        · exact isReady_of_mem_rowsCalls hcall
      · rcases hlast with rfl | rfl | rfl
        · simp at hcall
        · simp_all [Call.isReady, Call.isFinish]
        · simp only [List.mem_cons, List.not_mem_nil, or_false] at hcall
          rcases hcall with rfl | rfl <;> exact ⟨rfl, rfl⟩

/-! ## Complete sessions between two states -/

/-- The second state is reached from the first by complete sessions. -/
def InSessions (s t : Scripted) : Prop :=
  ∃ sessions : List (List Call), (∀ session ∈ sessions, Session s.isReady session) ∧
    Records sessions.flatten s t

theorem InSessions.refl (s : Scripted) : InSessions s s :=
  ⟨[], by simp, .refl s⟩

/-- The calls of one session are in sessions. -/
theorem InSessions.single {calls : List Call} {s t : Scripted} (hsession : Session s.isReady calls)
    (h : Records calls s t) : InSessions s t := by
  refine ⟨[calls], by simpa using hsession, ?_⟩
  rwa [List.flatten_singleton]

/-- Sessions do not change whether statements are accepted. -/
theorem InSessions.isReady_eq {s t : Scripted} (h : InSessions s t) : t.isReady = s.isReady := by
  obtain ⟨sessions, -, h⟩ := h
  exact h.isReady_eq

/-- Sessions come one after the other. -/
theorem InSessions.trans {s t u : Scripted} (h : InSessions s t) (h' : InSessions t u) :
    InSessions s u := by
  have hready := h.isReady_eq
  obtain ⟨earlier, hearlier, h⟩ := h
  obtain ⟨later, hlater, h'⟩ := h'
  refine ⟨earlier ++ later, ?_, ?_⟩
  · intro session hsession
    rcases List.mem_append.1 hsession with hsession | hsession
    · exact hearlier session hsession
    · exact hready ▸ hlater session hsession
  · rw [List.flatten_append]
    exact h.trans h'

/-! ## Contexts -/

/-- Asking for a context records that it has been asked. -/
theorem records_asked (c : Connection Scripted) : Records [.ready] c.executor c.asked.executor :=
  records_record .ready c.executor

/-- Ending a context is recorded. -/
theorem records_release (c : Connection Scripted) : Records [.finish] c.executor c.release.executor :=
  records_finish c.executor

/-- A refused context is a session. -/
theorem inSessions_of_refused {c : Connection Scripted} (h : (Executor.ready c.executor).1 = false) :
    InSessions c.executor c.asked.executor := by
  have hready : c.executor.isReady = false := h
  exact .single (hready ▸ .refused) (records_asked c)

/-- Calls in a context of their own are a session. -/
theorem inSessions_release {c c' : Connection Scripted} {calls : List Call}
    (hready : (Executor.ready c.executor).1 = true) (h : Records calls c.asked.executor c'.executor)
    (hsession : Session true (.ready :: calls ++ [.finish])) :
    InSessions c.executor c'.release.executor := by
  have hready : c.executor.isReady = true := hready
  exact .single (hready ▸ hsession) (((records_asked c).trans h).trans (records_release c'))

/-! ## Readers -/

namespace Reader

/-- Since the first state a reader has been opened, and its session has come to the second: its cursor is
open and it has fetched its rows, or it has gone through complete sessions only. -/
inductive Serves (s : Scripted) (r : Reader Scripted) (t : Scripted) : Prop
  | active (hactive : r.IsActive) (hready : s.isReady = true)
    (hcolumns : r.columns.isSome = true ↔ 0 < r.rowsFetched) (sql : String) (oids : List Oid)
    (values : List Value) (h : Records (cursorCalls sql oids values ++ rowsCalls r.rowsFetched) s t)
  | complete (hinactive : ¬ r.IsActive) (h : InSessions s t)

/-- The calls of fetching a row: it fails at once, finds no row, or writes a row, with the columns first if
they are not known. -/
def fetchCalls {α : Type} (known : Option Columns) : Except Error (Option α) → List Call
  | .error _ => [.fetch]
  | .ok none => [.fetch, .dimensions]
  | .ok (some _) =>
    if known.isSome then [.fetch, .dimensions, .currentRow]
    else [.fetch, .dimensions, .columns, .currentRow]

/-- A fetch records the calls that its outcome tells. -/
theorem records_of_fetching {cursor : Executor.Cursor Scripted} {known : Option Columns}
    {previous : Option (List (Executor.Place Scripted))} {s t : Scripted}
    {result : Except Error (Option (Columns × List (Executor.Place Scripted)))}
    (h : Fetching cursor known previous s result t) : Records (fetchCalls known result) s t := by
  cases h with
  | fetchFailed hfetch => exact (records_fetch cursor s).of_eq hfetch
  | noRow hfetch hsize =>
    exact ((records_fetch cursor s).of_eq hfetch).trans ((records_dimensions _).of_eq hsize)
  | columnsFailed hfetch hsize hknown hcolumns => exact absurd hcolumns (columns_ne_error _ _ _ _)
  | firstRow hfetch hsize hknown hcolumns hrow =>
    have hfetched := ((records_fetch cursor s).of_eq hfetch).trans ((records_dimensions _).of_eq hsize)
    have hasked := hfetched.trans ((records_columns _ _).of_eq hcolumns)
    rw [hknown]
    exact hasked.trans ((records_currentRow _ _).of_eq hrow)
  | laterRow hfetch hsize hknown hrow =>
    have hfetched := ((records_fetch cursor s).of_eq hfetch).trans ((records_dimensions _).of_eq hsize)
    rw [hknown]
    exact hfetched.trans ((records_currentRow _ _).of_eq hrow)

/-- If the columns are known from the first row on, a fetched row takes the calls of its position. -/
theorem fetchCalls_eq_rowCalls {α : Type} {known : Option Columns} {n : Nat}
    (h : known.isSome = true ↔ 0 < n) (a : α) : fetchCalls known (.ok (some a)) = rowCalls n := by
  rw [fetchCalls, rowCalls]
  by_cases hfirst : n = 0
  · rw [if_pos hfirst, if_neg (by rw [h]; omega)]
  · rw [if_neg hfirst, if_pos (h.2 (Nat.pos_of_ne_zero hfirst))]

/-- The session of an open cursor is complete with the end of the context, also behind a last fetch. -/
theorem inSessions_finish {s t u : Scripted} {sql : String} {oids : List Oid} {values : List Value}
    {n : Nat} {last : List Call} (hready : s.isReady = true)
    (h : Records (cursorCalls sql oids values ++ rowsCalls n) s t) (h' : Records last t u)
    (hlast : last = [] ∨ last = [.fetch] ∨ last = [.fetch, .dimensions]) : InSessions s u.finish :=
  .single (hready ▸ .cursor sql oids values n hlast) ((h.trans h').trans (records_finish u))

/-- Reading carries the session of a reader on. -/
theorem serves_read {s : Scripted} {r : Reader Scripted} {c : Connection Scripted}
    (h : Serves s r c.executor) : Serves s (r.read c).2.1 (r.read c).2.2.executor := by
  rcases r.read_cases c with ⟨-, hread⟩ | ⟨statement, cursor, row, hphase, hread⟩
  · rw [hread]
    exact h
  · have hrecords := records_of_fetching (fetching_fetchRow cursor r.columns row c)
    cases h with
    | complete hinactive h => exact absurd ⟨statement, cursor, row, hphase⟩ hinactive
    | active hactive hready hcolumns sql oids values h =>
      rcases hread with ⟨cs, next, c', hfetch, hread⟩ | ⟨c', hfetch, hread⟩ | ⟨e, c', hfetch, hread⟩
      · rw [hread]
        rw [hfetch, fetchCalls_eq_rowCalls hcolumns] at hrecords
        refine .active ⟨statement, cursor, some next, rfl⟩ hready (by simp) sql oids values ?_
        rw [rowsCalls_succ, ← List.append_assoc]
        exact h.trans hrecords
      -- Without a row the context is ended, and the fetch was the last call before.
      · rw [hread]
        rw [hfetch] at hrecords
        exact .complete (not_isActive_exhausted r) (inSessions_finish hready h hrecords (.inr (.inr rfl)))
      · rw [hread]
        rw [hfetch] at hrecords
        exact .complete (not_isActive_closed r) (inSessions_finish hready h hrecords (.inr (.inl rfl)))

/-- Giving a reader up completes its session. -/
theorem inSessions_dispose {s : Scripted} {r : Reader Scripted} {c : Connection Scripted}
    (h : Serves s r c.executor) : InSessions s (r.dispose c).executor := by
  cases h with
  | complete hinactive h =>
    rw [dispose_of_not_isActive hinactive]
    exact h
  | active hactive hready hcolumns sql oids values h =>
    rw [dispose_of_isActive hactive]
    exact inSessions_finish hready h (.refl c.executor) (.inl rfl)

/-- Closing a reader completes its session. -/
theorem inSessions_close {s : Scripted} {r : Reader Scripted} {c : Connection Scripted}
    (h : Serves s r c.executor) : InSessions s (r.close c).2.executor := by
  cases h with
  | complete hinactive h =>
    rw [close_of_not_isActive hinactive]
    exact h
  | active hactive hready hcolumns sql oids values h =>
    rw [close_of_isActive hactive]
    exact inSessions_finish hready h (.refl c.executor) (.inl rfl)

/-- Telling a value records no call. -/
theorem records_value (r : Reader Scripted) (i : Nat) (c : Connection Scripted) :
    Records [] c.executor (r.value i c).2.executor := by
  rcases r.executor_value_cases i c with h | ⟨datum, oid, h⟩
  · rw [h]
    exact .refl c.executor
  · rw [h]
    exact records_readDatum datum oid c.executor

/-- Looking at values keeps the session where it is. -/
theorem Serves.looked {s : Scripted} {r : Reader Scripted} {c c' : Connection Scripted}
    (h : Serves s r c.executor) (hlooked : Looked r c c') : Serves s r c'.executor := by
  induction hlooked with
  | none => exact h
  | @value c' hlooked i ih =>
    have hvalue := records_value r i c'
    cases ih with
    | complete hinactive h => exact .complete hinactive (h.trans ⟨[], by simp, hvalue⟩)
    | active hactive hready hcolumns sql oids values h =>
      refine .active hactive hready hcolumns sql oids values ?_
      have hboth := h.trans hvalue
      rwa [List.append_nil] at hboth

/-- Any request to a reader carries its session on. -/
theorem serves_answer {s : Scripted} {r : Reader Scripted} {c : Connection Scripted}
    (h : Serves s r c.executor) (request : ReaderRequest) :
    Serves s (r.answer c request).2.1 (r.answer c request).2.2.executor := by
  rcases r.answer_cases c request with ⟨-, hread⟩ | ⟨-, hclose⟩ | ⟨-, reply, c', hlook, hlooked⟩
  · rw [hread]
    exact serves_read h
  · rw [hclose]
    exact .complete (not_isActive_close r c) (inSessions_close h)
  · rw [hlook]
    exact h.looked hlooked

/-- Any requests to a reader carry its session on. -/
theorem serves_answerAll {s : Scripted} {r : Reader Scripted} {c : Connection Scripted}
    (h : Serves s r c.executor) (requests : List ReaderRequest) :
    Serves s (r.answerAll c requests).2.1 (r.answerAll c requests).2.2.executor := by
  induction requests generalizing r c with
  | nil => exact h
  | cons request rest ih => exact ih (serves_answer h request)

end Reader

/-! ## Commands -/

namespace Command

/-- Handing values over to a prepared statement adds no call. -/
theorem records_of_bound {plan : Plan} {bindings : List (Value × Oid)} {s t u : Scripted}
    {handle : Executor.Statement Scripted} {result : Except Error (List (Executor.Place Scripted))}
    (hprepare : Executor.prepare plan.sql plan.oids s = (.ok handle, t))
    (hbind : bindPlaces bindings t = (result, u)) : Records [.prepare plan.sql plan.oids] s u :=
  ((records_prepare plan.sql plan.oids s).of_eq hprepare).trans ((records_bindPlaces bindings t).of_eq hbind)

/-- The calls before a reader has its cursor. -/
theorem exists_records_of_opened {plan : Plan} {bindings : List (Value × Oid)} {s t : Scripted}
    {r : Reader Scripted} (h : Opening plan bindings s (.ok r) t) :
    ∃ statement cursor values, r = Reader.ofCursor statement cursor ∧
      Records [.prepare plan.sql plan.oids, .openCursor plan.sql values] s t := by
  cases h with
  | @opened handle places cursor u v _ hprepare hbind hopen =>
    have hopened := (records_openCursor handle places v).of_eq hopen
    rw [sql_of_prepare hprepare] at hopened
    exact ⟨_, cursor, _, rfl, (records_of_bound hprepare hbind).trans hopened⟩

/-- Without a cursor, the calls make a session. -/
theorem exists_records_of_not_opened {plan : Plan} {bindings : List (Value × Oid)} {s t : Scripted}
    {e : Error} (h : Opening plan bindings s (.error e) t) :
    ∃ calls, Records calls s t ∧ Session true (.ready :: calls ++ [.finish]) := by
  cases h with
  | prepareFailed hprepare =>
    exact ⟨_, (records_prepare plan.sql plan.oids s).of_eq hprepare, .prepared _ _⟩
  | bindFailed hprepare hbind => exact ⟨_, records_of_bound hprepare hbind, .prepared _ _⟩
  | @openFailed _ handle places u v _ hprepare hbind hopen =>
    have hopened := (records_openCursor handle places v).of_eq hopen
    rw [sql_of_prepare hprepare] at hopened
    exact ⟨_, (records_of_bound hprepare hbind).trans hopened, .cursor _ _ _ 0 (.inl rfl)⟩

/-- What a plan that runs to completion records makes a session. -/
theorem exists_records_of_running {plan : Plan} {bindings : List (Value × Oid)} {options : Options}
    {s t : Scripted} {result : Except Error Nat} (h : Running plan bindings options s result t) :
    ∃ calls, Records calls s t ∧ Session true (.ready :: calls ++ [.finish]) := by
  cases h with
  | executed hoids hexecute => exact ⟨_, (records_execute _ _ _ s).of_eq hexecute, .executed _ _ _⟩
  | prepareFailed hoids hprepare =>
    exact ⟨_, (records_prepare plan.sql plan.oids s).of_eq hprepare, .prepared _ _⟩
  | bindFailed hoids hprepare hbind => exact ⟨_, records_of_bound hprepare hbind, .prepared _ _⟩
  | @executedPrepared _ handle places u v _ hoids hprepare hbind hexecute =>
    have hexecuted := (records_executePrepared handle places v).of_eq hexecute
    rw [sql_of_prepare hprepare] at hexecuted
    exact ⟨_, (records_of_bound hprepare hbind).trans hexecuted, .executedPrepared _ _ _⟩

/-- What executing for a reader has done: the reader is being served, or there is none and the sessions are
complete. -/
def Delivers (s : Scripted) : Except Error (Reader Scripted) → Scripted → Prop
  | .ok r, t => Reader.Serves s r t
  | .error _, t => InSessions s t

/-- The session of a cursor goes on if the cursor is opened, and is complete otherwise. -/
theorem delivers_opening (plan : Plan) (ps : Parameters) (c : Connection Scripted) :
    Delivers c.executor (Connection.opening (openCursor plan ps) c).1
      (Connection.opening (openCursor plan ps) c).2.executor := by
  have hopening := opening_openCursor plan ps c.asked
  rcases Connection.opening_cases (openCursor plan ps) c with
    ⟨hready, h⟩ | ⟨hready, ⟨r, c', hopen, h⟩ | ⟨e, c', hopen, h⟩⟩
  · rw [h]
    exact inSessions_of_refused hready
  · rw [h]
    rw [hopen] at hopening
    obtain ⟨statement, cursor, values, rfl, hrecords⟩ := exists_records_of_opened hopening
    exact .active ⟨statement, cursor, none, rfl⟩ hready (by simp [Reader.ofCursor]) plan.sql plan.oids
      values ((records_asked c).trans hrecords)
  · rw [h]
    rw [hopen] at hopening
    obtain ⟨calls, hrecords, hsession⟩ := exists_records_of_not_opened hopening
    exact inSessions_release hready hrecords hsession

/-- A plan that runs to completion does so in a session. -/
theorem inSessions_within_run (plan : Plan) (ps : Parameters) (options : Options)
    (c : Connection Scripted) :
    InSessions c.executor (Connection.within (run plan ps options) c).2.executor := by
  rcases Connection.within_cases (run plan ps options) c with ⟨hready, h⟩ | ⟨hready, h⟩
  · rw [h]
    exact inSessions_of_refused hready
  · rw [h]
    obtain ⟨calls, hrecords, hsession⟩ := exists_records_of_running (running_run plan ps options c.asked)
    exact inSessions_release hready hrecords hsession

/-- Planning makes no call. -/
theorem inSessions_prepare (cmd : Command) (c : Connection Scripted) :
    InSessions c.executor (cmd.prepare c).2.2.executor := by
  rw [executor_prepare]
  exact .refl c.executor

/-- An execution to completion is one session. -/
theorem inSessions_executeNonQuery (cmd : Command) (c : Connection Scripted) :
    InSessions c.executor (cmd.executeNonQuery c).2.2.executor := by
  have hprepare := inSessions_prepare cmd c
  rw [executeNonQuery]
  rcases hplanned : cmd.prepare c with ⟨_ | plan, cmd', c'⟩
  · rw [hplanned] at hprepare
    exact hprepare
  · rw [hplanned] at hprepare
    have hrun := hprepare.trans (inSessions_within_run plan cmd'.parameters c'.options c')
    simp only
    rcases hwithin : Connection.within (run plan cmd'.parameters c'.options) c' with ⟨_ | n, c''⟩
    · rw [hwithin] at hrun
      exact hrun
    · rw [hwithin] at hrun
      simpa only [Connection.executor_logStatement] using hrun

/-- An execution for a reader delivers one that serves its own session. -/
theorem delivers_executeReader (cmd : Command) (c : Connection Scripted) :
    Delivers c.executor (cmd.executeReader c).1 (cmd.executeReader c).2.2.executor := by
  rw [executeReader]
  split
  · have hprepare := executor_prepare cmd c
    rcases hplanned : cmd.prepare c with ⟨_ | plan, cmd', c'⟩
    · rw [hplanned] at hprepare
      show InSessions c.executor c'.executor
      rw [show c'.executor = c.executor from hprepare]
      exact .refl c.executor
    · rw [hplanned] at hprepare
      rw [← show c'.executor = c.executor from hprepare]
      exact delivers_opening plan cmd'.parameters c'
  -- A command that is no query has come through its session before its reader is made.
  · have hrun := inSessions_executeNonQuery cmd c
    rcases hexecuted : cmd.executeNonQuery c with ⟨_ | n, cmd', c'⟩
    · rw [hexecuted] at hrun
      exact hrun
    · rw [hexecuted] at hrun
      exact .complete (Reader.not_isActive_ofAffected n) hrun

/-- Taking the first value completes the session of a reader. -/
theorem inSessions_firstValue {s : Scripted} {r : Reader Scripted} {c : Connection Scripted}
    (h : Reader.Serves s r c.executor) : InSessions s (firstValue r c).2.executor := by
  have hread := Reader.serves_read h
  rw [firstValue]
  -- If the read or the value fails, the reader is given up, and closed otherwise.
  rcases hmoved : r.read c with ⟨_ | _ | _, r', c'⟩
  · rw [hmoved] at hread
    exact Reader.inSessions_dispose hread
  · rw [hmoved] at hread
    exact Reader.inSessions_close hread
  · rw [hmoved] at hread
    have hvalue := hread.looked (.value .none 0)
    simp only at hvalue ⊢
    rcases htold : r'.value 0 c' with ⟨_ | v, c''⟩
    · rw [htold] at hvalue
      exact Reader.inSessions_dispose hvalue
    · rw [htold] at hvalue
      exact Reader.inSessions_close hvalue

/-- An execution for a single value is one session. -/
theorem inSessions_executeScalar (cmd : Command) (c : Connection Scripted) :
    InSessions c.executor (cmd.executeScalar c).2.2.executor := by
  have hdelivers := delivers_executeReader cmd c
  rw [executeScalar]
  rcases hread : cmd.executeReader c with ⟨_ | r, cmd', c'⟩
  · rw [hread] at hdelivers
    exact hdelivers
  · rw [hread] at hdelivers
    exact inSessions_firstValue hdelivers

/-- Any request to a command goes through complete sessions. -/
theorem inSessions_answer (cmd : Command) (c : Connection Scripted) (request : CommandRequest) :
    InSessions c.executor (cmd.answer c request).2.2.executor := by
  cases request with
  | prepare => exact inSessions_prepare cmd c
  | nonQuery => exact inSessions_executeNonQuery cmd c
  | scalar => exact inSessions_executeScalar cmd c
  | reader requests =>
    have hdelivers := delivers_executeReader cmd c
    simp only [answer]
    rcases hread : cmd.executeReader c with ⟨_ | r, cmd', c'⟩
    · rw [hread] at hdelivers
      exact hdelivers
    · rw [hread] at hdelivers
      -- The session of the reader is complete once the reader is disposed of.
      exact Reader.inSessions_dispose (Reader.serves_answerAll hdelivers requests)
  | setText text =>
    simp only [answer]
    cases cmd.setText text <;> exact .refl c.executor
  | edit request =>
    simp only [answer]
    rcases cmd.parameters.answer request with ⟨reply, ps⟩
    cases reply <;> exact .refl c.executor
  | text | isQuery | withParameter | withValue | parameters => exact .refl c.executor

/-- Any requests to a command go through complete sessions. -/
theorem inSessions_answerAll (cmd : Command) (c : Connection Scripted) (requests : List CommandRequest) :
    InSessions c.executor (cmd.answerAll c requests).2.2.executor := by
  induction requests generalizing cmd c with
  | nil => exact .refl c.executor
  | cons request rest ih =>
    exact (inSessions_answer cmd c request).trans (ih (cmd.answer c request).2.1 (cmd.answer c request).2.2)

end Command

/-! ## Connections -/

/-- The sessions that a request to a connection may lead to if statements are accepted, or refused. Only
commands have sessions; opening the connection asks whether statements are accepted, and no more. -/
def ConnectionRequest.MayLeadTo {ι : Type} (isReady : Bool) (sessions : List (List Call)) :
    ConnectionRequest ι → Prop
  | .command _ _ => ∀ session ∈ sessions, Session isReady session ∧ Bracketed isReady session
  | .connect => sessions = [[.ready]]
  | _ => sessions = []

namespace Connection

/-- Opening the connection asks whether statements are accepted, and nothing else. -/
theorem executor_connect (c : Connection Scripted) :
    (connect c).2.executor = c.executor.record .ready := by
  rw [connect, bind_apply, checkReady]
  cases hready : (c.onExecutor Executor.ready).1 <;> rfl

/-- A request to a connection leads to such sessions. -/
theorem exists_sessions_answer (c : Connection Scripted) (request : ConnectionRequest Instruction) :
    ∃ sessions, request.MayLeadTo c.executor.isReady sessions ∧
      (answer follow c request).2.executor.calls = c.executor.calls ++ sessions.flatten := by
  cases request with
  | connect =>
    have hconnect := executor_connect c
    refine ⟨[[.ready]], rfl, ?_⟩
    simp only [answer]
    rcases hopened : connect c with ⟨_ | _, c'⟩
    · rw [hopened] at hconnect
      exact congrArg Scripted.calls hconnect
    · rw [hopened] at hconnect
      exact congrArg Scripted.calls hconnect
  | command text requests =>
    simp only [answer]
    cases Command.create text with
    | error e => exact ⟨[], by simp [ConnectionRequest.MayLeadTo], by simp⟩
    | ok cmd =>
      obtain ⟨sessions, hsessions, hrecords⟩ := Command.inSessions_answerAll cmd c requests
      refine ⟨sessions, ?_, hrecords.calls_eq⟩
      intro session hsession
      exact ⟨hsessions session hsession, (hsessions session hsession).bracketed⟩
  | instruct instruction =>
    refine ⟨[], rfl, ?_⟩
    rw [List.flatten_nil, List.append_nil]
    cases instruction <;> rfl
  | close | isOpen | options => exact ⟨[], rfl, by simp [answer, close]⟩

/-- While requests to a connection are carried out, the scripted executor records the sessions of each
request one after the other, and nothing else. The sessions of a command are complete and of the listed
forms, for the executor as it is ready or not when the command comes; in each of them the question for a
context comes first and, unless it is refused, the end of the context comes last, and neither comes
between. -/
theorem exists_sessions_answerAll (c : Connection Scripted)
    (requests : List (ConnectionRequest Instruction)) :
    ∃ parts : List (List (List Call)), parts.length = requests.length ∧
      (answerAll follow c requests).2.executor.calls = c.executor.calls ++ parts.flatten.flatten ∧
      ∀ (i : Nat) (request : ConnectionRequest Instruction) (sessions : List (List Call)),
        requests[i]? = some request → parts[i]? = some sessions →
          request.MayLeadTo (answerAll follow c (requests.take i)).2.executor.isReady sessions := by
  induction requests generalizing c with
  | nil => exact ⟨[], rfl, by simp [answerAll], by simp⟩
  | cons request rest ih =>
    obtain ⟨sessions, hsessions, hcalls⟩ := exists_sessions_answer c request
    obtain ⟨parts, hlength, hmore, hparts⟩ := ih (answer follow c request).2
    refine ⟨sessions :: parts, by simp [hlength], ?_, ?_⟩
    · rw [List.flatten_cons, List.flatten_append, ← List.append_assoc, ← hcalls]
      exact hmore
    · intro i request' sessions' hrequest hsessions'
      cases i with
      | zero =>
        cases hrequest
        cases hsessions'
        exact hsessions
      | succ i => exact hparts i request' sessions' hrequest hsessions'

end Connection

end InProcessSql
