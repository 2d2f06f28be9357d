import InProcessSql.Proofs.HandedOver
import InProcessSql.Proofs.KeptPlans

/-!
# Executions that fail

Failures of any operations can be queued for the scripted executor, in any order. An execution calls its operations one
after the other, and fails at the first one of which a failure waits. `Scripted.Goes` is such a run through a list of
operations, `Scripted.Goes.failsAt` says where it fails and what it then leaves, and `Command.surfaces_performAll` says
so of the executions of commands.
-/

namespace InProcessSql

open Scripted

/-- The operation that a call belongs to, if it can be made to fail. -/
def Call.operation? : Call → Option Operation
  | .prepare _ _ => some .prepare
  | .execute _ _ _ => some .execute
  | .executePrepared _ _ => some .execute
  | .openCursor _ _ => some .openCursor
  | .fetch => some .fetch
  | .ready | .dimensions | .columns | .currentRow | .finish => none

namespace Scripted

/-! ## Calls that use nothing up -/

/-- The second state is reached from the first by calls of these operations, and by others that cannot fail. -/
def Calls (operations : List Operation) (s t : Scripted) : Prop :=
  ∃ calls, t.calls = s.calls ++ calls ∧ calls.filterMap Call.operation? = operations

/-- Operations are called one after the other. -/
theorem Calls.trans {earlier later : List Operation} {s t u : Scripted} (h : Calls earlier s t)
    (h' : Calls later t u) : Calls (earlier ++ later) s u := by
  obtain ⟨calls, hcalls, hoperations⟩ := h
  obtain ⟨calls', hcalls', hoperations'⟩ := h'
  refine ⟨calls ++ calls', ?_, ?_⟩
  · rw [hcalls', hcalls, List.append_assoc]
  · rw [List.filterMap_append, hoperations, hoperations']

/-- The second state is reached from the first by calls of these operations, and nothing that was queued has been used
up. -/
structure Passes (operations : List Operation) (s t : Scripted) : Prop where
  calls : Calls operations s t
  failures : t.failures = s.failures
  results : t.results = s.results
  affected : t.affected = s.affected

theorem Passes.refl (s : Scripted) : Passes [] s s :=
  ⟨⟨[], (List.append_nil s.calls).symm, rfl⟩, rfl, rfl, rfl⟩

/-- Operations are passed one after the other. -/
theorem Passes.trans {earlier later : List Operation} {s t u : Scripted} (h : Passes earlier s t)
    (h' : Passes later t u) : Passes (earlier ++ later) s u where
  calls := h.calls.trans h'.calls
  failures := h'.failures.trans h.failures
  results := h'.results.trans h.results
  affected := h'.affected.trans h.affected

/-- The same failures wait after calls that use nothing up. -/
theorem Passes.waiting?_eq {operations : List Operation} {s t : Scripted} (h : Passes operations s t)
    (operation : Operation) : t.waiting? operation = s.waiting? operation := by
  unfold waiting?
  rw [h.failures]

/-- Recording the call of an operation passes it. -/
theorem passes_record {call : Call} {operation : Operation} (h : call.operation? = some operation) (s : Scripted) :
    Passes [operation] s (s.record call) :=
  ⟨⟨[call], rfl, by simp [h]⟩, rfl, rfl, rfl⟩

theorem passes_record_of_none {call : Call} (h : call.operation? = none) (s : Scripted) :
    Passes [] s (s.record call) :=
  ⟨⟨[call], rfl, by simp [h]⟩, rfl, rfl, rfl⟩

theorem passes_finish (s : Scripted) : Passes [] s s.finish :=
  ⟨⟨[.finish], rfl, rfl⟩, rfl, rfl, rfl⟩

theorem TakesIn.passes {s t : Scripted} (h : TakesIn s t) : Passes [] s t := by
  obtain ⟨more, rfl⟩ := h
  exact ⟨⟨[], (List.append_nil s.calls).symm, rfl⟩, rfl, rfl, rfl⟩

/-! ## Running through operations -/

/-- Work on the executor that goes through operations one after the other: it stops at the first of which a failure
waits, with the error of this failure, which is used up. -/
inductive Goes {α : Type} : List Operation → Scripted → Except Error α → Scripted → Prop
  | finished {a : α} {s t : Scripted} (hkept : t.failures = s.failures) : Goes [] s (.ok a) t
  | failed {operation : Operation} {later : List Operation} {f : Failure} {s t u : Scripted}
    (hwaiting : s.waiting? operation = some f) (hcalled : Passes [operation] s t)
    (hended : Passes [] (t.withoutFirst operation) u) : Goes (operation :: later) s (.error f.error) u
  | passed {operation : Operation} {later : List Operation} {result : Except Error α} {s t u : Scripted}
    (hwaiting : s.waiting? operation = none) (hcalled : Passes [operation] s t) (hlater : Goes later t result u) :
    Goes (operation :: later) s result u

section Goes

variable {α β : Type} {operations : List Operation} {result : Except Error α} {s t u : Scripted}

/-- What is made of the value does not matter for how the operations go. -/
theorem Goes.map (h : Goes operations s result t) (f : α → β) : Goes operations s (result.map f) t := by
  induction h with
  | finished hkept => exact .finished hkept
  | failed hwaiting hcalled hended => exact .failed hwaiting hcalled hended
  | passed hwaiting hcalled hlater ih => exact .passed hwaiting hcalled ih

/-- A run may come after other work that uses nothing up. -/
theorem Goes.after (h : Goes operations t result u) (hpasses : Passes [] s t) : Goes operations s result u := by
  cases h with
  | finished hkept => exact .finished (hkept.trans hpasses.failures)
  | failed hwaiting hcalled hended =>
    rw [hpasses.waiting?_eq] at hwaiting
    exact .failed hwaiting (hpasses.trans hcalled) hended
  | passed hwaiting hcalled hlater =>
    rw [hpasses.waiting?_eq] at hwaiting
    exact .passed hwaiting (hpasses.trans hcalled) hlater

/-- A run may be followed by other work that uses nothing up. -/
theorem Goes.before (h : Goes operations s result t) (hpasses : Passes [] t u) : Goes operations s result u := by
  induction h with
  | finished hkept => exact .finished (hpasses.failures.trans hkept)
  | failed hwaiting hcalled hended => exact .failed hwaiting hcalled (hended.trans hpasses)
  | passed hwaiting hcalled hlater ih => exact .passed hwaiting hcalled (ih hpasses)

/-- A run fails exactly if a failure of one of its operations waits. -/
theorem Goes.exists_error_iff (h : Goes operations s result t) :
    (∃ e, result = .error e) ↔ ∃ operation ∈ operations, (s.waiting? operation).isSome = true := by
  induction h with
  | finished hkept => simp
  | failed hwaiting hcalled hended => simp [hwaiting]
  | passed hwaiting hcalled hlater ih =>
    rw [ih]
    simp only [List.mem_cons, exists_eq_or_imp, hwaiting, Option.isSome_none, Bool.false_eq_true, false_or,
      hcalled.waiting?_eq]

/-- A run that succeeds uses no failure up. -/
theorem Goes.failures_eq {a : α} (h : Goes operations s (.ok a) t) : t.failures = s.failures := by
  generalize hresult : (.ok a : Except Error α) = result at h
  induction h with
  | finished hkept => exact hkept
  | failed hwaiting hcalled hended => cases hresult
  | passed hwaiting hcalled hlater ih => exact (ih hresult).trans hcalled.failures

/-- The second state is reached from the first by calls of the operations before one, and of this one, at which a
failure was used up: the failure of this operation that was queued first. The other failures are there as they were, and
so are the results and the counts of affected rows. -/
structure FailsAt (reached : List Operation) (operation : Operation) (f : Failure) (s t : Scripted) : Prop where
  calls : Calls (reached ++ [operation]) s t
  failures : ∃ earlier later, s.failures = earlier ++ f :: later ∧ (∀ g ∈ earlier, g.operation ≠ operation) ∧
    f.operation = operation ∧ t.failures = earlier ++ later
  results : t.results = s.results
  affected : t.affected = s.affected

/-- The failure that waits longest among those of an operation is the one that is taken out. -/
theorem exists_split_of_waiting? {operation : Operation} {f : Failure} (h : s.waiting? operation = some f) :
    ∃ earlier later, s.failures = earlier ++ f :: later ∧ (∀ g ∈ earlier, g.operation ≠ operation) ∧
      f.operation = operation ∧ (s.withoutFirst operation).failures = earlier ++ later := by
  obtain ⟨hf, earlier, later, hsplit, hearlier⟩ := List.find?_eq_some_iff_append.1 h
  have hf : f.operation = operation := of_decide_eq_true hf
  have hearlier : ∀ g ∈ earlier, g.operation ≠ operation := by
    intro g hg
    simpa using hearlier g hg
  refine ⟨earlier, later, hsplit, hearlier, hf, ?_⟩
  rw [withoutFirst, hsplit, List.eraseP_append_right _ (by simpa using hearlier),
    List.eraseP_cons_of_pos (by simpa using hf)]

/-- The operation whose failure was used up has been called, and no other. -/
theorem failsAt_of_called {operation : Operation} {f : Failure} (hwaiting : s.waiting? operation = some f)
    (hcalled : Passes [operation] s t) (hended : Passes [] (t.withoutFirst operation) u) :
    FailsAt [] operation f s u where
  calls := hcalled.calls.trans hended.calls
  failures := by
    rw [← hcalled.waiting?_eq] at hwaiting
    rw [hended.failures, ← hcalled.failures]
    exact exists_split_of_waiting? hwaiting
  results := hended.results.trans hcalled.results
  affected := hended.affected.trans hcalled.affected

/-- A failure stays one when operations have been passed before it. -/
theorem FailsAt.after {operation : Operation} {reached : List Operation} {f : Failure}
    (h : FailsAt reached operation f t u) (hpasses : Passes operations s t) :
    FailsAt (operations ++ reached) operation f s u where
  calls := by
    rw [List.append_assoc]
    exact hpasses.calls.trans h.calls
  failures := hpasses.failures ▸ h.failures
  results := h.results.trans hpasses.results
  affected := h.affected.trans hpasses.affected

/-- A run fails at the first operation of which a failure waits. -/
theorem Goes.failsAt (h : Goes operations s result t) {reached later : List Operation} {operation : Operation}
    {f : Failure} (hoperations : operations = reached ++ operation :: later)
    (hreached : ∀ o ∈ reached, s.waiting? o = none) (hwaiting : s.waiting? operation = some f) :
    result = .error f.error ∧ FailsAt reached operation f s t := by
  -- Along the run: its first operation fails, and is then the one in question, or is passed, and is then among those
  -- reached before.
  induction h generalizing reached with
  | finished hkept => cases reached <;> cases hoperations
  | failed hfailure hcalled hended =>
    cases reached with
    | nil =>
      cases hoperations
      obtain rfl := Option.some.inj (hfailure.symm.trans hwaiting)
      exact ⟨rfl, failsAt_of_called hwaiting hcalled hended⟩
    | cons first rest =>
      cases hoperations
      rw [hreached _ List.mem_cons_self] at hfailure
      cases hfailure
  | @passed _ _ _ _ t _ hnone hcalled hlater ih =>
    cases reached with
    | nil =>
      cases hoperations
      rw [hwaiting] at hnone
      cases hnone
    | cons first rest =>
      cases hoperations
      have hrest : ∀ o ∈ rest, t.waiting? o = none := by
        intro o ho
        rw [hcalled.waiting?_eq]
        exact hreached o (List.mem_cons_of_mem _ ho)
      obtain ⟨hresult, hfails⟩ := ih rfl hrest ((hcalled.waiting?_eq operation).trans hwaiting)
      exact ⟨hresult, hfails.after hcalled⟩

end Goes

/-! ## Running through a plan -/

section Plans

variable {α : Type}

/-- The last operation of a run goes on unless a failure of it waits. -/
theorem goes_of_guarded {next : Scripted → α × Scripted} (hnext : ∀ s, (next s).2.failures = s.failures)
    {call : Scripted → Call} {operation : Operation} (hcall : ∀ s, (call s).operation? = some operation)
    {result : Except Error α} {s t : Scripted} (h : guarded call operation (Step.total next) s = (result, t)) :
    Goes [operation] s result t := by
  have hcalled : Passes [operation] s (s.record (call s)) := passes_record (hcall s) s
  cases hwaiting : s.waiting? operation with
  | none =>
    rw [guarded_of_none hwaiting] at h
    cases h
    exact .passed hwaiting hcalled (.finished (hnext _))
  | some f =>
    rw [guarded_of_some hwaiting] at h
    cases h
    exact .failed hwaiting hcalled (.refl _)

theorem failures_takeAffected (s : Scripted) : s.takeAffected.2.failures = s.failures := by
  unfold takeAffected
  split <;> rfl

/-- Executing a text goes as its one operation. -/
theorem goes_of_execute {sql : String} {readOnly : Bool} {countLimit : Int} {result : Except Error Nat}
    {s t : Scripted} (h : execute sql readOnly countLimit s = (result, t)) : Goes [.execute] s result t := by
  rw [execute_eq] at h
  exact goes_of_guarded failures_takeAffected (fun _ => rfl) h

/-- Executing a prepared statement goes as its one operation. -/
theorem goes_of_executePrepared {statement : Statement} {places : List Place} {result : Except Error Nat}
    {s t : Scripted} (h : executePrepared statement places s = (result, t)) : Goes [.execute] s result t := by
  rw [executePrepared_eq] at h
  exact goes_of_guarded failures_takeAffected (fun _ => rfl) h

/-- Opening a cursor goes as its one operation. -/
theorem goes_of_openCursor {statement : Statement} {places : List Place} {result : Except Error Cursor}
    {s t : Scripted} (h : openCursor statement places s = (result, t)) : Goes [.openCursor] s result t := by
  rw [openCursor_eq] at h
  exact goes_of_guarded (fun _ => rfl) (fun _ => rfl) h

variable {plan : Plan} {bindings : List (Value × Oid)} {s t u : Scripted} {result : Except Error α}

/-- A run ends where preparing fails. -/
theorem goes_of_prepareFailed {e : Error} (hprepare : Executor.prepare plan.sql plan.oids s = (.error e, t))
    (later : List Operation) : Goes (.prepare :: later) s (.error e : Except Error α) t := by
  rcases prepare_cases hprepare with ⟨f, hwaiting, hresult, rfl⟩ | ⟨-, hresult, -⟩
  · cases hresult
    exact .failed hwaiting (passes_record rfl s) (.refl _)
  · cases hresult

/-- A run goes on after a statement has been prepared and the values have been handed over. -/
theorem goes_of_bound {handle : Executor.Statement Scripted} {places : List (Executor.Place Scripted)}
    {later : List Operation} {v : Scripted} (hprepare : Executor.prepare plan.sql plan.oids s = (.ok handle, t))
    (hbind : bindPlaces bindings t = (.ok places, u)) (hlater : Goes later u result v) :
    Goes (.prepare :: later) s result v := by
  obtain ⟨places', u', hbind', htaken, -⟩ := exists_bindPlaces bindings t
  cases hbind.symm.trans hbind'
  rcases prepare_cases hprepare with ⟨f, -, hresult, -⟩ | ⟨hwaiting, -, rfl⟩
  · cases hresult
  · exact .passed hwaiting (passes_record rfl s) (hlater.after htaken.passes)

/-- Opening a cursor goes through preparing and opening. -/
theorem goes_of_opening {result : Except Error (Reader Scripted)}
    (h : Command.Opening plan bindings s result t) : Goes [.prepare, .openCursor] s result t := by
  cases h with
  | prepareFailed hprepare => exact goes_of_prepareFailed hprepare _
  | bindFailed hprepare hbind => exact absurd hbind (bindPlaces_ne_error _ _ _ _)
  | @openFailed _ handle _ _ _ _ hprepare hbind hopen =>
    exact goes_of_bound hprepare hbind ((goes_of_openCursor hopen).map (Reader.ofCursor ⟨handle, plan.sql, plan.oids⟩))
  | @opened handle _ _ _ _ _ hprepare hbind hopen =>
    exact goes_of_bound hprepare hbind ((goes_of_openCursor hopen).map (Reader.ofCursor ⟨handle, plan.sql, plan.oids⟩))

/-- Running to completion goes through executing, and through preparing before that if there are OIDs. -/
theorem goes_of_running {options : Options} {result : Except Error Nat}
    (h : Command.Running plan bindings options s result t) :
    Goes (if plan.oids = [] then [.execute] else [.prepare, .execute]) s result t := by
  cases h with
  | executed hoids hexecute =>
    rw [if_pos hoids]
    exact goes_of_execute hexecute
  | prepareFailed hoids hprepare =>
    rw [if_neg hoids]
    exact goes_of_prepareFailed hprepare _
  | bindFailed hoids hprepare hbind => exact absurd hbind (bindPlaces_ne_error _ _ _ _)
  | executedPrepared hoids hprepare hbind hexecute =>
    rw [if_neg hoids]
    exact goes_of_bound hprepare hbind (goes_of_executePrepared hexecute)

end Plans

/-! ## Contexts -/

/-- How work on the executor that goes through operations fails, in a context that is asked for first. Either the
executor is not ready, or a failure of one of the operations waits; in each case this is the only thing that has come of
the work. -/
structure Surfaces {α : Type} (operations : List Operation) (s : Scripted) (result : Except Error α)
    (t : Scripted) : Prop where
  fails_iff : (∃ e, result = .error e) ↔
    s.isReady = false ∨ ∃ operation ∈ operations, (s.waiting? operation).isSome = true
  refused : s.isReady = false → result = .error (.executor (-1) "executor is not ready") ∧ t = s.record .ready
  failed : s.isReady = true → ∀ reached operation later f, operations = reached ++ operation :: later →
    (∀ o ∈ reached, s.waiting? o = none) → s.waiting? operation = some f →
    result = .error (.executor f.code f.message) ∧ FailsAt reached operation f s t
  succeeded : ∀ a, result = .ok a → t.failures = s.failures

variable {α β : Type} {operations : List Operation} {s t u : Scripted} {result : Except Error α}

/-- Failing in this way does not depend on what is made of the result. -/
theorem Surfaces.map (h : Surfaces operations s result t) (f : α → β) :
    Surfaces operations s (result.map f) t := by
  cases result with
  | error e =>
    refine ⟨iff_of_true ⟨e, rfl⟩ (h.fails_iff.1 ⟨e, rfl⟩), fun hready => ?_, ?_, nofun⟩
    · obtain ⟨hresult, ht⟩ := h.refused hready
      cases hresult
      exact ⟨rfl, ht⟩
    · intro hready reached operation later failure hoperations hreached hwaiting
      obtain ⟨hresult, hfails⟩ := h.failed hready reached operation later failure hoperations hreached hwaiting
      cases hresult
      exact ⟨rfl, hfails⟩
  | ok a =>
    refine ⟨iff_of_false nofun (mt h.fails_iff.2 nofun), fun hready => ?_, ?_, fun _ _ => h.succeeded a rfl⟩
    · cases (h.refused hready).1
    · intro hready reached operation later failure hoperations hreached hwaiting
      cases (h.failed hready reached operation later failure hoperations hreached hwaiting).1

/-- Where the executor accepts no statement, that is what surfaces. -/
theorem surfaces_of_refused (hready : s.isReady = false) :
    Surfaces operations s (.error .notReady : Except Error α) (s.record .ready) where
  fails_iff := iff_of_true ⟨_, rfl⟩ (.inl hready)
  refused _ := ⟨rfl, rfl⟩
  failed h := by
    rw [hready] at h
    cases h
  succeeded a h := nomatch h

/-- A run in a context, which ends with it or goes on. -/
theorem Goes.surfaces (h : Goes operations (s.record .ready) result t) (hready : s.isReady = true)
    (hended : Passes [] t u) : Surfaces operations s result u := by
  -- Neither the question for the context nor the end of it is a call that can fail.
  have hgoes := (h.after (passes_record_of_none rfl s)).before hended
  refine ⟨?_, ?_, ?_, ?_⟩
  · rw [hgoes.exists_error_iff, hready]
    simp only [Bool.true_eq_false, false_or]
  · intro hrefused
    rw [hready] at hrefused
    cases hrefused
  · intro _ reached operation later f hoperations hreached hwaiting
    exact hgoes.failsAt hoperations hreached hwaiting
  · rintro a rfl
    exact hgoes.failures_eq

end Scripted

/-- The operations that an execution with these parameters calls, given whether it opens a cursor: a cursor is opened
over a prepared statement, and otherwise there is one only for parameters. -/
def Parameters.stages (ps : Parameters) (opensCursor : Bool) : List Operation :=
  if opensCursor then [.prepare, .openCursor]
  else if ps.toList = [] then [.execute]
  else [.prepare, .execute]

/-- Running to completion calls the operations that the plan goes through. -/
theorem Plan.Fits.stages_eq {plan : Plan} {ps : Parameters} (h : plan.Fits ps) :
    ps.stages false = if plan.oids = [] then [.execute] else [.prepare, .execute] := by
  simp only [Parameters.stages, h.oids_eq_nil_iff, Bool.false_eq_true, if_false]

namespace Command

variable {cmd cmd' : Command} {c c' : Connection Scripted} {plan : Plan}

/-- What surfaces from an execution to completion is what its stages say. -/
theorem surfaces_executeNonQuery (hfits : plan.Fits cmd.parameters) (hparameters : cmd'.parameters = cmd.parameters)
    (hprepare : cmd.prepare c = (.ok plan, cmd', c')) :
    Surfaces (cmd.parameters.stages false) c.executor (cmd.executeNonQuery c).1
      (cmd.executeNonQuery c).2.2.executor := by
  obtain ⟨hexecutor, -⟩ := kept_of_prepare hprepare
  have houtcome : (cmd.executeNonQuery c).1
      = (Connection.within (run plan cmd.parameters c'.options) c').1 := by
    rw [executeNonQuery, hprepare]
    simp only [hparameters]
    rcases Connection.within (run plan cmd.parameters c'.options) c' with ⟨_ | n, c''⟩ <;> rfl
  rw [executor_executeNonQuery hprepare, hparameters, houtcome, ← hexecutor]
  rcases Connection.within_cases (run plan cmd.parameters c'.options) c' with
    ⟨hready, hwithin⟩ | ⟨hready, hwithin⟩
  · rw [hwithin]
    exact surfaces_of_refused hready
  · rw [hwithin, hfits.stages_eq]
    exact (goes_of_running (running_run plan cmd.parameters c'.options c'.asked)).surfaces hready (passes_finish _)

/-- What surfaces from an execution for a reader is what its stages say. -/
theorem surfaces_executeReader (hfits : plan.Fits cmd.parameters) (hparameters : cmd'.parameters = cmd.parameters)
    (hprepare : cmd.prepare c = (.ok plan, cmd', c')) :
    Surfaces (cmd.parameters.stages cmd.isQuery) c.executor (cmd.executeReader c).1
      (cmd.executeReader c).2.2.executor := by
  unfold executeReader
  cases hquery : cmd.isQuery with
  | true =>
    obtain ⟨hexecutor, -⟩ := kept_of_prepare hprepare
    rw [if_pos rfl, hprepare, ← hexecutor]
    simp only [hparameters]
    have hopening := opening_openCursor plan cmd.parameters c'.asked
    rcases Connection.opening_cases (openCursor plan cmd.parameters) c' with
      ⟨hready, hopen⟩ | ⟨hready, ⟨r, c'', hcursor, hopen⟩ | ⟨e, c'', hfailed, hopen⟩⟩
    · rw [hopen]
      exact surfaces_of_refused hready
    · rw [hopen]
      rw [hcursor] at hopening
      exact (goes_of_opening hopening).surfaces hready (.refl _)
    · rw [hopen]
      rw [hfailed] at hopening
      exact (goes_of_opening hopening).surfaces hready (passes_finish _)
  | false =>
    rw [if_neg Bool.false_ne_true]
    -- The reader of a command that is no query is made of the count, and its errors are those of the run.
    have hsurfaces := (surfaces_executeNonQuery hfits hparameters hprepare).map
      (Reader.ofAffected : Nat → Reader Scripted)
    rcases hexecute : cmd.executeNonQuery c with ⟨e | n, cmd'', c''⟩ <;> rw [hexecute] at hsurfaces
    · exact hsurfaces
    · exact hsurfaces

/-- Whatever has been done with a command, if it has a plan, then an execution fails exactly if the executor is not
ready or a failure of one of its operations waits. If the executor is not ready, it has only been asked whether it is;
the error has the code -1. Otherwise the error has the code and the words of the failure of the first operation of
which one waits, and of its failures the one that was queued first; this failure alone is used up, no later operation
is called, and no result and no count of affected rows is used up. The operations are executing, without parameters,
and with some preparing and executing; a query that is executed for a reader goes through preparing and opening a
cursor. -/
theorem surfaces_performAll {text : String} {cmd₀ cmd cmd' : Command} (hcreate : create text = .ok cmd₀) {σ : Type}
    [Executor σ] {c₀ : Connection σ} {operations : List CommandOperation}
    (hoperations : (cmd₀.performAll c₀ operations).1 = cmd) {c c' : Connection Scripted} {plan : Plan}
    (hprepare : cmd.prepare c = (.ok plan, cmd', c')) :
    Surfaces (cmd.parameters.stages false) c.executor (cmd.executeNonQuery c).1
        (cmd.executeNonQuery c).2.2.executor ∧
      Surfaces (cmd.parameters.stages cmd.isQuery) c.executor (cmd.executeReader c).1
        (cmd.executeReader c).2.2.executor := by
  obtain ⟨-, hcoherent⟩ := coherent_performAll (hasText_create hcreate) (coherent_create hcreate) c₀ operations
  rw [hoperations] at hcoherent
  obtain ⟨⟨source, hsource, -⟩, -, -, hparameters⟩ := prepare_eq_ok hcoherent hprepare
  have hfits := Plan.fits_of hsource
  exact ⟨surfaces_executeNonQuery hfits hparameters hprepare, surfaces_executeReader hfits hparameters hprepare⟩

/-- A query for which failures of four operations wait, and not in the order of the operations. -/
theorem surfaces_performAll_queued :
    let cmd : Command := { text := "select @a", parameters := ⟨[.named "a" (.int4 1)]⟩ }
    let failures : List Failure :=
      [⟨.fetch, 1, "fetch"⟩, ⟨.openCursor, 2, "open"⟩, ⟨.execute, 3, "execute"⟩, ⟨.execute, 4, "again"⟩]
    let c : Connection Scripted := { executor := { results := [{}], affected := [5], failures } }
    let plan : Plan := ⟨"select $1", [.scalar .integer], [23]⟩
    create "select @a" = .ok { text := "select @a" } ∧
      ((Command.mk "select @a" {} none).performAll c [.request (.withParameter "@a" (.int4 1))]).1 = cmd ∧
      (∃ cmd' c', cmd.prepare c = (.ok plan, cmd', c')) ∧
      (Surfaces (cmd.parameters.stages false) c.executor (cmd.executeNonQuery c).1
          (cmd.executeNonQuery c).2.2.executor ∧
        Surfaces (cmd.parameters.stages cmd.isQuery) c.executor (cmd.executeReader c).1
          (cmd.executeReader c).2.2.executor) ∧
      (cmd.executeNonQuery c).1 = .error (.executor 3 "execute") ∧
      (cmd.executeReader c).1 = .error (.executor 2 "open") := by
  intro cmd failures c plan
  have hcreate : create "select @a" = .ok { text := "select @a" } := rfl
  have hoperations : ((Command.mk "select @a" {} none).performAll c
      [.request (.withParameter "@a" (.int4 1))]).1 = cmd := by cbv
  have hplan : (cmd.prepare c).1 = .ok plan := by cbv
  have hprepare : cmd.prepare c = (.ok plan, (cmd.prepare c).2.1, (cmd.prepare c).2.2) := by rw [← hplan]
  have hsurfaces := surfaces_performAll hcreate hoperations hprepare
  refine ⟨hcreate, hoperations, ⟨_, _, hprepare⟩, hsurfaces, ?_, ?_⟩
  · exact (hsurfaces.1.failed rfl [.prepare] .execute [] ⟨.execute, 3, "execute"⟩ rfl (by decide) (by decide)).1
  · exact (hsurfaces.2.failed rfl [.prepare] .openCursor [] ⟨.openCursor, 2, "open"⟩ (by cbv) (by decide)
      (by decide)).1

end Command

end InProcessSql
