import InProcessSql.Proofs.PlannedFirst
import InProcessSql.Proofs.Turns

/-!
# Executions that are tried again

An execution that has failed may be tried again. The command has a plan by then, and its text has been numbered; the
executor has been called, and values have been handed over. `Attempted` lists what may have been done in vain, and
`Command.answer_retried` says that none of it matters: once nothing is in the way, the execution is answered as it would
have been at first, and makes the same calls.
-/

namespace InProcessSql

open Scripted

/-! ## Options -/

section Options

variable {σ α β : Type} {x : Action σ α} {f : α → Action σ β}

/-- The action leaves the options of the connection as they are. -/
def KeepsOptions (x : Action σ α) : Prop := ∀ c, (x c).2.options = c.options

/-- Actions that keep the options keep them one after the other. -/
theorem KeepsOptions.bind (hx : KeepsOptions x) (hf : ∀ a, KeepsOptions (f a)) : KeepsOptions (x >>= f) := by
  intro c
  have hfirst := hx c
  rw [Connection.bind_apply]
  rcases hresult : x c with ⟨_ | a, c'⟩ <;> rw [hresult] at hfirst
  · exact hfirst
  · exact (hf a c').trans hfirst

theorem keepsOptions_ite {p : Prop} [Decidable p] {y : Action σ α} (hx : KeepsOptions x) (hy : KeepsOptions y) :
    KeepsOptions (if p then x else y) := by
  split
  · exact hx
  · exact hy

/-- A step of the executor keeps the options. -/
theorem keepsOptions_onExecutor (f : Step σ Error α) : KeepsOptions (Connection.onExecutor f) := fun _ => rfl

theorem keepsOptions_emit (event : Event) : KeepsOptions (Step.update (Connection.emit event) : Action σ Unit) :=
  fun _ => rfl

theorem keepsOptions_logStatement (event : Level → Event) :
    KeepsOptions (Step.update (Connection.logStatement event) : Action σ Unit) :=
  fun c => Connection.options_logStatement event c

theorem keepsOptions_pure (a : α) : KeepsOptions (pure a : Action σ α) := fun _ => rfl

variable [Executor σ]

/-- Opening something in a context keeps the options. -/
theorem KeepsOptions.opening (hx : KeepsOptions x) : KeepsOptions (Connection.opening x) := by
  intro c
  have hworked := hx c.asked
  rcases Connection.opening_cases x c with ⟨-, h⟩ | ⟨-, ⟨a, c', hok, h⟩ | ⟨e, c', herror, h⟩⟩
  · rw [h]
    rfl
  · rw [h]
    rw [hok] at hworked
    exact hworked
  · rw [h]
    rw [herror] at hworked
    exact hworked

/-- Doing something within a context keeps the options. -/
theorem KeepsOptions.within (hx : KeepsOptions x) : KeepsOptions (Connection.within x) := by
  intro c
  rcases Connection.within_cases x c with ⟨-, h⟩ | ⟨-, h⟩
  · rw [h]
    rfl
  · rw [h]
    exact hx c.asked

theorem keepsOptions_prepareStatement (plan : Plan) :
    KeepsOptions (Command.prepareStatement plan : Action σ (Prepared σ)) :=
  (keepsOptions_onExecutor _).bind fun _ => (keepsOptions_emit _).bind fun _ => keepsOptions_pure _

/-- Opening a cursor keeps the options. -/
theorem keepsOptions_openCursor (plan : Plan) (ps : Parameters) :
    KeepsOptions (Command.openCursor plan ps : Action σ (Reader σ)) :=
  (keepsOptions_prepareStatement plan).bind fun _ => (keepsOptions_onExecutor _).bind fun _ =>
    (keepsOptions_onExecutor _).bind fun _ => (keepsOptions_logStatement _).bind fun _ => keepsOptions_pure _

/-- Running a plan to completion keeps the options. -/
theorem keepsOptions_run (plan : Plan) (ps : Parameters) (options : Options) :
    KeepsOptions (Command.run plan ps options : Action σ Nat) :=
  keepsOptions_ite (keepsOptions_onExecutor _) ((keepsOptions_prepareStatement plan).bind fun _ =>
    (keepsOptions_onExecutor _).bind fun _ => keepsOptions_onExecutor _)

end Options

/-! ## Commands with a plan -/

/-- A statement is prepared for a cursor, and for parameters. -/
theorem Parameters.prepare_mem_stages {ps : Parameters} {opensCursor : Bool}
    (h : opensCursor = true ∨ ps.toList ≠ []) : .prepare ∈ ps.stages opensCursor := by
  unfold stages
  split
  · exact List.mem_cons_self
  · rename_i hcursor
    rw [if_neg (h.resolve_left hcursor)]
    exact List.mem_cons_self

/-- Without a failure of preparing in the way, preparing does not fail. -/
theorem HandsOver.of_free {plan : Plan} {ps : Parameters} {options : Options} {opensCursor : Bool} {calls : List Call}
    {s : Scripted} (hfree : Free (ps.stages opensCursor) s)
    (h : HandsOver plan ps options opensCursor (s.waiting? .prepare).isSome calls) :
    HandsOver plan ps options opensCursor false calls := by
  generalize hwaiting : (s.waiting? .prepare).isSome = failing at h
  cases h with
  | executed hps => exact .executed hps
  | prepareFailed h =>
    rw [hfree.waiting .prepare (Parameters.prepare_mem_stages h)] at hwaiting
    cases hwaiting
  | executedPrepared hps => exact .executedPrepared hps
  | cursorOpened hlater => exact .cursorOpened hlater

namespace Command

section Planned

variable {cmd : Command} {plan : Plan} {c d : Connection Scripted}

/-- A command that has a plan keeps it, and tells nothing. -/
theorem prepare_of_plan {σ : Type} (hplan : cmd.plan = some plan) (c : Connection σ) :
    cmd.prepare c = (.ok plan, cmd, c) := by
  simp only [prepare, hplan]

/-- The calls of an execution that nothing stands in the way of, before rows are read. -/
def executionCalls (plan : Plan) (ps : Parameters) (options : Options) (opensCursor : Bool) : List Call :=
  if opensCursor then
    [.ready, .prepare plan.sql plan.oids, .openCursor plan.sql (ps.toList.map Parameter.value)]
  else if ps.toList = [] then
    [.ready, .execute plan.sql options.readOnly options.countLimit, .finish]
  else
    [.ready, .prepare plan.sql plan.oids, .executePrepared plan.sql (ps.toList.map Parameter.value), .finish]

/-- How an execution of a command that has a plan goes. -/
structure Executes {α : Type} (cmd : Command) (plan : Plan) (opensCursor : Bool) (outcome : Scripted → α × Scripted)
    (c : Connection Scripted) (x : Except Error α × Command × Connection Scripted) : Prop where
  command : x.2.1 = cmd
  options : x.2.2.options = c.options
  turn : Turn (cmd.parameters.stages opensCursor) fresh outcome c.executor x.1 x.2.2.executor
  records : Free (cmd.parameters.stages opensCursor) c.executor →
    Records (executionCalls plan cmd.parameters c.options opensCursor) c.executor x.2.2.executor

/-- The calls of running a command to completion. -/
theorem records_executeNonQuery (hfits : plan.Fits cmd.parameters) (hplan : cmd.plan = some plan)
    (hfree : Free (cmd.parameters.stages false) c.executor) :
    Records (executionCalls plan cmd.parameters c.options false) c.executor (cmd.executeNonQuery c).2.2.executor := by
  obtain ⟨calls, hcalls, hrecords⟩ :=
    handsOver_executeNonQuery hfits rfl (prepare_of_plan hplan c) hfree.isReady
  cases hcalls.of_free hfree with
  | executed hps =>
    rw [executionCalls, if_neg Bool.false_ne_true, if_pos hps]
    exact hrecords
  | executedPrepared hps =>
    rw [executionCalls, if_neg Bool.false_ne_true, if_neg hps]
    exact hrecords

/-- Running to completion in a context of its own is a turn of the operations that the plan goes through. -/
theorem turn_within_run {ps : Parameters} (hfits : plan.Fits ps) (options : Options) (c : Connection Scripted) :
    Turn (ps.stages false) fresh takeAffected c.executor (Connection.within (run plan ps options) c).1
      (Connection.within (run plan ps options) c).2.executor := by
  rcases Connection.within_cases (run plan ps options) c with ⟨hready, hwithin⟩ | ⟨-, hwithin⟩
  · rw [hwithin]
    exact turn_of_refused hready
  · have hasked : c.asked.executor.script = c.executor.script := rfl
    rw [hwithin, hfits.stages_eq]
    exact ((turn_of_running (running_run plan ps options c.asked)).after hasked rfl).finish

/-- A command that runs to completion executes its plan, and answers the next count. -/
theorem executes_executeNonQuery (hfits : plan.Fits cmd.parameters) (hplan : cmd.plan = some plan)
    (c : Connection Scripted) : cmd.Executes plan false takeAffected c (cmd.executeNonQuery c) := by
  have hkept := (keepsOptions_run plan cmd.parameters c.options).within c
  have hwithin := turn_within_run hfits c.options c
  have hrecords := records_executeNonQuery (c := c) hfits hplan
  rw [executeNonQuery, prepare_of_plan hplan] at hrecords ⊢
  simp only at hrecords ⊢
  rcases hresult : Connection.within (run plan cmd.parameters c.options) c with ⟨_ | n, c'⟩ <;>
    rw [hresult] at hwithin hkept hrecords
  · exact ⟨rfl, hkept, hwithin, hrecords⟩
  · simp only [Connection.executor_logStatement] at hrecords
    refine ⟨rfl, ?_, ?_, ?_⟩
    · exact (Connection.options_logStatement _ c').trans hkept
    · rwa [Connection.executor_logStatement]
    · rwa [Connection.executor_logStatement]

/-- A query is executed by opening a cursor. -/
theorem executes_of_isQuery (hfits : plan.Fits cmd.parameters) (hplan : cmd.plan = some plan)
    (hquery : cmd.isQuery = true) (c : Connection Scripted) :
    cmd.Executes plan true (nextReader plan) c (cmd.executeReader c) := by
  have hexecute : cmd.executeReader c = ((Connection.opening (openCursor plan cmd.parameters) c).1, cmd,
      (Connection.opening (openCursor plan cmd.parameters) c).2) := by
    rw [executeReader, if_pos hquery, prepare_of_plan hplan]
  have hkept := (keepsOptions_openCursor plan cmd.parameters).opening c
  have hasked : c.asked.executor.script = c.executor.script := rfl
  have hopening := opening_openCursor plan cmd.parameters c.asked
  have hturn := (turn_of_opening hopening).after hasked rfl
  have hrecords := (records_asked c).trans (records_of_opening hfits hopening)
  rw [hexecute]
  -- The opening is refused, succeeds, or fails at one of its stages.
  rcases Connection.opening_cases (openCursor plan cmd.parameters) c with
    ⟨hready, hopen⟩ | ⟨-, ⟨r, c', hcursor, hopen⟩ | ⟨e, c', hfailed, hopen⟩⟩
  · rw [hopen] at hkept ⊢
    exact ⟨rfl, hkept, turn_of_refused hready, fun hfree => by cases hready.symm.trans hfree.isReady⟩
  · rw [hopen] at hkept ⊢
    rw [hcursor] at hturn hrecords
    refine ⟨rfl, hkept, hturn, fun hfree => ?_⟩
    have hnone : c.asked.executor.waiting? .prepare = none := hfree.waiting .prepare List.mem_cons_self
    rw [hnone] at hrecords
    exact hrecords
  · rw [hopen] at hkept ⊢
    rw [hfailed] at hturn
    exact ⟨rfl, hkept, hturn.ended, fun hfree => by cases (hturn.succeeded hfree).1⟩

/-- The reader that a command is executed for, and what is then left to come. -/
def readerOutcome (cmd : Command) (plan : Plan) (s : Scripted) : Reader Scripted × Scripted :=
  if cmd.isQuery then nextReader plan s else (Reader.ofAffected (takeAffected s).1, (takeAffected s).2)

/-- A reader that has just been made stands on no row. -/
theorem row?_readerOutcome (cmd : Command) (plan : Plan) (s : Scripted) :
    (cmd.readerOutcome plan s).1.row? = none := by
  unfold readerOutcome
  split <;> rfl

/-- A command that is executed for a reader executes its plan, and answers the reader of the next result or count. -/
theorem executes_executeReader (hfits : plan.Fits cmd.parameters) (hplan : cmd.plan = some plan)
    (c : Connection Scripted) :
    cmd.Executes plan cmd.isQuery (cmd.readerOutcome plan) c (cmd.executeReader c) := by
  have houtcome : cmd.readerOutcome plan = fun s => if cmd.isQuery then nextReader plan s
      else (Reader.ofAffected (takeAffected s).1, (takeAffected s).2) := rfl
  rw [houtcome]
  cases hquery : cmd.isQuery with
  | true => exact executes_of_isQuery hfits hplan hquery c
  | false =>
    rw [executeReader, if_neg (by simp [hquery])]
    obtain ⟨hcommand, hkept, hturn, hrecords⟩ := executes_executeNonQuery hfits hplan c
    have hread := hturn.map (Reader.ofAffected : Nat → Reader Scripted)
    rcases hexecute : cmd.executeNonQuery c with ⟨e | n, cmd', c'⟩ <;>
      rw [hexecute] at hcommand hkept hread hrecords
    · exact ⟨hcommand, hkept, hread, hrecords⟩
    · exact ⟨hcommand, hkept, hread, hrecords⟩

/-! ## Two executions -/

/-- Two connections have gone on by the same calls, and their executors differ in what has been before at most. -/
structure Alongside (c d c' d' : Connection Scripted) : Prop where
  fresh : c'.executor.fresh = d'.executor.fresh
  calls : ∃ calls, c'.executor.calls = c.executor.calls ++ calls ∧ d'.executor.calls = d.executor.calls ++ calls

/-- Two executions that nothing stands in the way of have the same outcome if the same is to come. -/
theorem Executes.alongside {α : Type} {opensCursor : Bool} {outcome : Scripted → α × Scripted}
    {x y : Except Error α × Command × Connection Scripted} (hx : cmd.Executes plan opensCursor outcome c x)
    (hy : cmd.Executes plan opensCursor outcome d y) (hc : Free (cmd.parameters.stages opensCursor) c.executor)
    (hd : Free (cmd.parameters.stages opensCursor) d.executor) (hscript : c.executor.script = d.executor.script)
    (hoptions : c.options = d.options) :
    ∃ c' d', x = (.ok (outcome c.executor.script).1, cmd, c') ∧ y = (.ok (outcome c.executor.script).1, cmd, d') ∧
      Alongside c d c' d' ∧ c'.options = d'.options := by
  obtain ⟨hresult, hfresh⟩ := hx.turn.succeeded hc
  obtain ⟨hresult', hfresh'⟩ := hy.turn.succeeded hd
  rw [← hscript] at hresult' hfresh'
  have hrecords := hy.records hd
  rw [← hoptions] at hrecords
  refine ⟨x.2.2, y.2.2, Prod.ext hresult (Prod.ext hx.command rfl), Prod.ext hresult' (Prod.ext hy.command rfl),
    ⟨hfresh.trans hfresh'.symm, _, (hx.records hc).calls_eq, hrecords.calls_eq⟩, ?_⟩
  rw [hx.options, hy.options, hoptions]

end Planned

end Command

/-! ## Requests -/

/-- Whether a request executes a command and hands on what comes of it, so that it can be made again. -/
def CommandRequest.isRetryable : CommandRequest → Bool
  | .nonQuery | .reader _ => true
  | _ => false

/-- What can be tried again is an execution. -/
theorem CommandRequest.isExecution_of_isRetryable {request : CommandRequest} (h : request.isRetryable = true) :
    request.isExecution = true := by
  cases request <;> first | rfl | cases h

namespace Command

section Requests

variable {cmd : Command} {plan : Plan} {request : CommandRequest}

/-- Two executions that nothing stands in the way of are answered alike if the same is to come, and no error is
answered. -/
theorem answer_alongside (hfits : plan.Fits cmd.parameters) (hplan : cmd.plan = some plan)
    (hretryable : request.isRetryable = true) {c d : Connection Scripted}
    (hc : Free (cmd.parameters.stages (request.opensCursor cmd)) c.executor)
    (hd : Free (cmd.parameters.stages (request.opensCursor cmd)) d.executor)
    (hscript : c.executor.script = d.executor.script) (hoptions : c.options = d.options) :
    (∀ e, (cmd.answer c request).1 ≠ .error e) ∧ (cmd.answer d request).1 = (cmd.answer c request).1 ∧
      (cmd.answer d request).2.1 = (cmd.answer c request).2.1 ∧
      Alongside c d (cmd.answer c request).2.2 (cmd.answer d request).2.2 := by
  cases request with
  | nonQuery =>
    obtain ⟨c', d', hexecute, hexecute', halongside, -⟩ := (executes_executeNonQuery hfits hplan c).alongside
      (executes_executeNonQuery hfits hplan d) hc hd hscript hoptions
    simp only [answer, hexecute, hexecute']
    exact ⟨fun e he => (by cases he), trivial, trivial, halongside⟩
  | reader requests =>
    obtain ⟨c', d', hexecute, hexecute', ⟨hfresh, calls, hcalls, hcalls'⟩, hoptions⟩ :=
      (executes_executeReader hfits hplan c).alongside (executes_executeReader hfits hplan d) hc hd hscript hoptions
    obtain ⟨hreplies, hfresh, later, hlater, hlater'⟩ :=
      Reader.answerAll_of_fresh_eq (row?_readerOutcome cmd plan c.executor.script) hfresh hoptions requests
    simp only [answer, hexecute, hexecute']
    refine ⟨fun e he => (by cases he), ?_, trivial, hfresh, calls ++ later, ?_, ?_⟩
    · rw [hreplies]
    · rw [hlater, hcalls, List.append_assoc]
    · rw [hlater', hcalls', List.append_assoc]
  | _ => cases hretryable

/-- An execution that fails leaves the command and the options, and spares what is to come. -/
theorem spares_answer (hfits : plan.Fits cmd.parameters) (hplan : cmd.plan = some plan)
    (hretryable : request.isRetryable = true) {c : Connection Scripted} {e : Error}
    (hfailed : (cmd.answer c request).1 = .error e) :
    (cmd.answer c request).2.1 = cmd ∧ (cmd.answer c request).2.2.options = c.options ∧
      Spares (cmd.parameters.stages (request.opensCursor cmd)) c.executor (cmd.answer c request).2.2.executor := by
  cases request with
  | nonQuery =>
    have hexecutes := executes_executeNonQuery hfits hplan c
    refine ⟨hexecutes.command, hexecutes.options, ?_⟩
    cases hresult : (cmd.executeNonQuery c).1 with
    | error e' => exact hexecutes.turn.failed e' hresult
    | ok n =>
      simp only [answer, hresult] at hfailed
      cases hfailed
  | reader requests =>
    have hexecutes := executes_executeReader hfits hplan c
    rcases hexecute : cmd.executeReader c with ⟨e' | r, cmd', c'⟩
    · simp only [answer, hexecute]
      rw [hexecute] at hexecutes
      exact ⟨hexecutes.command, hexecutes.options, hexecutes.turn.failed e' rfl⟩
    · simp only [answer, hexecute] at hfailed
      cases hfailed
  | _ => cases hretryable

/-- A request that is made of the command once it has been prepared is answered in the same way. -/
theorem answer_prepare (hretryable : request.isRetryable = true) (cmd : Command) (c : Connection Scripted) :
    (cmd.prepare c).2.1.answer (cmd.prepare c).2.2 request = cmd.answer c request := by
  have hnonQuery : (cmd.prepare c).2.1.executeNonQuery (cmd.prepare c).2.2 = cmd.executeNonQuery c := by
    rw [executeNonQuery, prepare_prepare, executeNonQuery]
  cases request with
  | nonQuery => rw [answer, hnonQuery, answer]
  | reader requests =>
    have hreader : (cmd.prepare c).2.1.executeReader (cmd.prepare c).2.2 = cmd.executeReader c := by
      rw [executeReader, isQuery_prepare, prepare_prepare, hnonQuery, executeReader]
    rw [answer, hreader, answer]
  | _ => cases hretryable

/-- A command that has been prepared, in place of the command: a request is answered by it as by the command, on
connections that differ in the log at most. -/
structure PlannedAs (cmd : Command) (request : CommandRequest) (plan : Plan) (planned : Command) : Prop where
  fits : plan.Fits planned.parameters
  plan : planned.plan = some plan
  parameters : planned.parameters = cmd.parameters
  opensCursor : request.opensCursor planned = request.opensCursor cmd
  answer : ∀ c : Connection Scripted, ∃ d : Connection Scripted, d.executor = c.executor ∧ d.options = c.options ∧
    planned.answer d request = cmd.answer c request

/-- A command that has been prepared is planned as the request needs it. -/
theorem plannedAs_of_prepare (hcoherent : cmd.Coherent) (hretryable : request.isRetryable = true)
    {c c' : Connection Scripted} {planned : Command} (hprepare : cmd.prepare c = (.ok plan, planned, c')) :
    cmd.PlannedAs request plan planned := by
  obtain ⟨⟨source, hsource, -⟩, hplan, -, hparameters⟩ := prepare_eq_ok hcoherent hprepare
  refine ⟨hparameters ▸ Plan.fits_of hsource, hplan, hparameters, ?_, fun d => ?_⟩
  · have hquery := cmd.isQuery_prepare c
    rw [hprepare] at hquery
    cases request <;> first | rfl | exact hquery
  · -- Planning does not depend on the connection.
    have hsame : (cmd.prepare d).1 = (cmd.prepare c).1 ∧ (cmd.prepare d).2.1 = (cmd.prepare c).2.1 := by
      rw [prepare, prepare]
      split
      · exact ⟨rfl, rfl⟩
      · split <;> exact ⟨rfl, rfl⟩
    rw [hprepare] at hsame
    have hprepare' : cmd.prepare d = (.ok plan, planned, (cmd.prepare d).2.2) :=
      Prod.ext hsame.1 (Prod.ext hsame.2 rfl)
    obtain ⟨hexecutor, hoptions⟩ := kept_of_prepare hprepare'
    have hanswer := answer_prepare hretryable cmd d
    rw [hsame.2] at hanswer
    exact ⟨_, hexecutor, hoptions, hanswer⟩

/-- An execution to which the executor answers with an error has a plan. -/
theorem exists_plan_of_answer (hretryable : request.isRetryable = true) {c : Connection Scripted} {code : Int32}
    {message : String} (hfailed : (cmd.answer c request).1 = .error (.executor code message)) :
    ∃ plan cmd' c', cmd.prepare c = (.ok plan, cmd', c') := by
  rcases hprepare : cmd.prepare c with ⟨e | plan, cmd', c'⟩
  · obtain ⟨hplanning, hsame⟩ := prepare_of_error (congrArg Prod.fst hprepare)
    have hrefused : (cmd.answer c request).1 = .error e := by
      cases request with
      | nonQuery =>
        rw [answer, executeNonQuery_of_error hsame]
        rfl
      | reader requests => rw [answer, executeReader_of_error hsame]
      | _ => cases hretryable
    cases hfailed.symm.trans hrefused
    cases hplanning
  · exact ⟨plan, cmd', c', rfl⟩

end Requests

end Command

/-! ## Attempts -/

/-- Whether an instruction only puts something in the way of these operations, or takes it out of the way. -/
def Scripted.Instruction.hinders (operations : List Operation) : Instruction → Bool
  | .ready _ => true
  | .fail f => f.operation ∈ operations
  | .result _ | .affected _ => false

/-- Queueing a failure that hinders the operations spares everything else. -/
theorem Scripted.spares_follow {operations : List Operation} {instruction : Instruction}
    (h : instruction.hinders operations = true) (s : Scripted) : Spares operations s (follow instruction s) := by
  cases instruction with
  | ready isReady => rfl
  | fail f =>
    have hfailures : (s.failures ++ [f]).filter (fun g => g.operation ∉ operations)
        = s.failures.filter fun g => g.operation ∉ operations := by
      have hf : f.operation ∈ operations := of_decide_eq_true h
      rw [List.filter_append, List.filter_cons_of_neg (by simpa using hf), List.filter_nil, List.append_nil]
    exact congrArg (fun failures => ({ s.script with isReady := true, failures } : Scripted)) hfailures
  | result r => cases h
  | affected n => cases h

/-- What an execution has come to that has been tried any number of times, each time in vain, while the executor was
told anything about whether statements are accepted, and was given failures of the operations in question. -/
inductive Attempted (operations : List Operation) (request : CommandRequest) (x : Command × Connection Scripted) :
    Command × Connection Scripted → Prop
  | untried : Attempted operations request x x
  | failed {cmd : Command} {c : Connection Scripted} {e : Error} (h : Attempted operations request x (cmd, c))
    (hfailed : (cmd.answer c request).1 = .error e) : Attempted operations request x (cmd.answer c request).2
  | told {cmd : Command} {c : Connection Scripted} {instruction : Instruction}
    (h : Attempted operations request x (cmd, c)) (hinstruction : instruction.hinders operations = true) :
    Attempted operations request x (cmd, { c with executor := follow instruction c.executor })

/-- Attempts may follow one another. -/
theorem Attempted.trans {operations : List Operation} {request : CommandRequest} {x y z : Command × Connection Scripted}
    (h : Attempted operations request x y) (h' : Attempted operations request y z) :
    Attempted operations request x z := by
  induction h' with
  | untried => exact h
  | failed _ hfailed ih => exact ih.failed hfailed
  | told _ hinstruction ih => exact ih.told hinstruction

/-- Attempts in vain leave the command and the options, and spare what is to come. -/
theorem Attempted.spares {cmd : Command} {plan : Plan} {request : CommandRequest} (hfits : plan.Fits cmd.parameters)
    (hplan : cmd.plan = some plan) (hretryable : request.isRetryable = true) {c : Connection Scripted}
    {y : Command × Connection Scripted}
    (h : Attempted (cmd.parameters.stages (request.opensCursor cmd)) request (cmd, c) y) :
    y.1 = cmd ∧ y.2.options = c.options ∧
      Spares (cmd.parameters.stages (request.opensCursor cmd)) c.executor y.2.executor := by
  induction h with
  | untried => exact ⟨rfl, rfl, rfl⟩
  | failed h hfailed ih =>
    obtain ⟨rfl, hoptions, hspares⟩ := ih
    obtain ⟨hsame, hkept, hspared⟩ := Command.spares_answer hfits hplan hretryable hfailed
    exact ⟨hsame, hkept.trans hoptions, hspares.trans hspared⟩
  | told h hinstruction ih =>
    obtain ⟨hsame, hoptions, hspares⟩ := ih
    exact ⟨hsame, hoptions, hspares.trans (spares_follow hinstruction _)⟩

namespace Command

/-- An execution of a command with a plan that has failed is answered, once nothing is in its way, as if nothing had
been. -/
theorem answer_retried_of_plan {cmd cmd' : Command} {plan : Plan} {request : CommandRequest}
    (hfits : plan.Fits cmd.parameters) (hplan : cmd.plan = some plan) (hretryable : request.isRetryable = true)
    {c d c' : Connection Scripted} {e : Error} (hfailed : (cmd.answer c request).1 = .error e)
    (hattempted : Attempted (cmd.parameters.stages (request.opensCursor cmd)) request (cmd.answer c request).2
      (cmd', c')) (hfree : Free (cmd.parameters.stages (request.opensCursor cmd)) c'.executor)
    (hexecutor : d.executor = c.executor.relieved (cmd.parameters.stages (request.opensCursor cmd)))
    (hoptions : d.options = c.options) :
    (∀ e, (cmd.answer d request).1 ≠ .error e) ∧ (cmd'.answer c' request).1 = (cmd.answer d request).1 ∧
      (cmd'.answer c' request).2.1 = (cmd.answer d request).2.1 ∧
      Alongside d c' (cmd.answer d request).2.2 (cmd'.answer c' request).2.2 := by
  obtain ⟨rfl, hkept, hspares⟩ := (Attempted.untried.failed hfailed).trans hattempted |>.spares hfits hplan hretryable
  have hscript : d.executor.script = c'.executor.script := by
    rw [hexecutor, ← hfree.relieved_eq]
    exact hspares.symm
  have hfirst : Free (cmd'.parameters.stages (request.opensCursor cmd')) d.executor := by
    rw [hexecutor]
    exact free_relieved _ _
  exact answer_alongside hfits hplan hretryable hfirst hfree hscript (hoptions.trans hkept.symm)

/-- Whatever has been done with a command, an execution of it that failed because the executor did not accept statements
or because of a failure may be tried again, and again. Once statements are accepted and no failure of its operations
waits, it has the answer that it would have had at first if nothing had been in its way; this is no error, and the
answers of its reader are among it. It makes the same calls, which hand the plan over for the parameters of the command,
and leaves the same command and the same executor, but for the calls and the values before. -/
theorem answer_retried {text : String} {cmd₀ cmd cmd₁ cmd' : Command} (hcreate : create text = .ok cmd₀) {σ : Type}
    [Executor σ] {c₀ : Connection σ} {operations : List CommandOperation}
    (hoperations : (cmd₀.performAll c₀ operations).1 = cmd) {request : CommandRequest}
    (hretryable : request.isRetryable = true) {c c₁ c' : Connection Scripted} {code : Int32} {message : String}
    (hfailed : cmd.answer c request = (.error (.executor code message), cmd₁, c₁))
    (hattempted : Attempted (cmd.parameters.stages (request.opensCursor cmd)) request (cmd₁, c₁) (cmd', c'))
    (hfree : Free (cmd.parameters.stages (request.opensCursor cmd)) c'.executor) :
    let relieved := c.executor.relieved (cmd.parameters.stages (request.opensCursor cmd))
    let first := cmd.answer { c with executor := relieved } request
    let again := cmd'.answer c' request
    (∀ e, first.1 ≠ .error e) ∧ again.1 = first.1 ∧ again.2.1 = first.2.1 ∧
      again.2.2.executor.fresh = first.2.2.executor.fresh ∧
      ∃ plan calls, (cmd.prepare c).1 = .ok plan ∧
        HandsOver plan cmd.parameters c.options (request.opensCursor cmd) false calls ∧
        first.2.2.executor.calls = c.executor.calls ++ calls ∧
        again.2.2.executor.calls = c'.executor.calls ++ calls := by
  intro relieved first again
  obtain ⟨-, hcoherent⟩ := coherent_performAll (hasText_create hcreate) (coherent_create hcreate) c₀ operations
  rw [hoperations] at hcoherent
  obtain ⟨plan, planned, d, hprepare⟩ := exists_plan_of_answer hretryable (congrArg Prod.fst hfailed)
  have hplanned := plannedAs_of_prepare hcoherent hretryable hprepare
  -- Both executions are those of the command that has been prepared.
  obtain ⟨d, hexecutor, hoptions, hanswer⟩ := hplanned.answer c
  obtain ⟨d', hexecutor', hoptions', hanswer'⟩ := hplanned.answer { c with executor := relieved }
  rw [← hplanned.parameters, ← hplanned.opensCursor] at hattempted hfree
  have hrelieved : d'.executor
      = d.executor.relieved (planned.parameters.stages (request.opensCursor planned)) := by
    rw [hexecutor, hexecutor', hplanned.parameters, hplanned.opensCursor]
  have hfirst := hanswer.trans hfailed
  have hagain := answer_retried_of_plan hplanned.fits hplanned.plan hretryable (congrArg Prod.fst hfirst)
    (by rwa [hfirst]) hfree hrelieved (hoptions'.trans hoptions.symm)
  rw [hanswer'] at hagain
  obtain ⟨hnone, hreply, hcommand, hfresh, calls, hcalls, hcalls'⟩ := hagain
  have hfreed : Free (planned.parameters.stages (request.opensCursor planned)) d'.executor := by
    rw [hrelieved]
    exact free_relieved _ _
  obtain ⟨handed, hhanded, hrecords⟩ := handsOver_answer (CommandRequest.isExecution_of_isRetryable hretryable)
    hplanned.fits rfl (prepare_of_plan hplanned.plan d') hfreed.isReady
  -- The calls that are made again are those that hand the plan over.
  rw [hanswer'] at hrecords
  obtain rfl : calls = handed := List.append_cancel_left (hcalls.symm.trans hrecords.calls_eq)
  have hhanded := hhanded.of_free hfreed
  rw [hplanned.parameters, hplanned.opensCursor, hoptions'] at hhanded
  rw [hexecutor'] at hcalls
  exact ⟨hnone, hreply, hcommand, hfresh.symm, plan, calls, congrArg Prod.fst hprepare, hhanded, hcalls, hcalls'⟩

namespace Hindered

/-- A connection that has been used before, to an executor that does not accept statements and for which failures
wait. -/
def connection : Connection Scripted :=
  { executor := {
      isReady := false
      results := [⟨⟨[⟨"n", 23⟩]⟩, [[.int4 7]]⟩]
      failures := [⟨.openCursor, 2, "open"⟩, ⟨.prepare, 1, "prepare"⟩]
      datums := [.text "x"] } }

/-- A query with a parameter. -/
def query : Command := { text := "select @a", parameters := ⟨[.named "a" (.int4 1)]⟩ }

/-- A request for the first value of the first row. -/
def request : CommandRequest := .reader [.read, .value 0]

/-- What comes of the request while statements are not accepted. -/
def refused : CommandReply × Command × Connection Scripted := query.answer connection request

/-- What comes of it then, once they are. -/
def unprepared : CommandReply × Command × Connection Scripted :=
  refused.2.1.answer { refused.2.2 with executor := follow (.ready true) refused.2.2.executor } request

/-- What comes of it then, once the failure of preparing has been used up. -/
def unopened : CommandReply × Command × Connection Scripted := unprepared.2.1.answer unprepared.2.2 request

end Hindered

open Hindered in
/-- A query that is tried in vain while statements are not accepted, and then until the failures of preparing and of
opening a cursor have been used up. -/
theorem answer_retried_hindered :
    let first := query.answer
      { connection with executor := connection.executor.relieved [.prepare, .openCursor] } request
    let again := unopened.2.1.answer unopened.2.2 request
    create "select @a" = .ok { text := "select @a" } ∧
      ((Command.mk "select @a" {} none).performAll connection [.request (.withParameter "@a" (.int4 1))]).1 = query ∧
      request.isRetryable = true ∧ refused.1 = .error (.executor (-1) "executor is not ready") ∧
      Attempted [.prepare, .openCursor] request refused.2 unopened.2 ∧
      Free [.prepare, .openCursor] unopened.2.2.executor ∧
      (∀ e, first.1 ≠ .error e) ∧ again.1 = first.1 ∧ again.2.1 = first.2.1 ∧
      again.2.2.executor.fresh = first.2.2.executor.fresh ∧
      (∃ plan calls, (query.prepare connection).1 = .ok plan ∧
        HandsOver plan query.parameters connection.options true false calls ∧
        first.2.2.executor.calls = connection.executor.calls ++ calls ∧
        again.2.2.executor.calls = unopened.2.2.executor.calls ++ calls) ∧
      again.1 = .reader [.flag true, .value (.int4 7)] := by
  intro first again
  have hcreate : create "select @a" = .ok { text := "select @a" } := rfl
  have hoperations : ((Command.mk "select @a" {} none).performAll connection
      [.request (.withParameter "@a" (.int4 1))]).1 = query := by cbv
  have hrefused : refused.1 = .error (.executor (-1) "executor is not ready") := by cbv
  have hunprepared : unprepared.1 = .error (.executor 1 "prepare") := by cbv
  have hunopened : unopened.1 = .error (.executor 2 "open") := by cbv
  have hattempted : Attempted [.prepare, .openCursor] request refused.2 unopened.2 :=
    .failed (.failed (.told .untried rfl) hunprepared) hunopened
  have hfailures : unopened.2.2.executor.failures = [] := by cbv
  have hready : unopened.2.2.executor.isReady = true := by cbv
  have hfree : Free [.prepare, .openCursor] unopened.2.2.executor :=
    ⟨hready, fun operation _ => by rw [waiting?, hfailures]; rfl⟩
  have hopens : request.opensCursor query = true := by decide +kernel
  have hstages : query.parameters.stages (request.opensCursor query) = [.prepare, .openCursor] := by
    rw [hopens]
    rfl
  have hreply : (unopened.2.1.answer unopened.2.2 request).1 = .reader [.flag true, .value (.int4 7)] := by cbv
  have hfailed : query.answer connection request
      = (.error (.executor (-1) "executor is not ready"), refused.2.1, refused.2.2) := Prod.ext hrefused rfl
  have hretried := answer_retried hcreate hoperations rfl hfailed (hstages ▸ hattempted) (hstages ▸ hfree)
  rw [hstages, hopens] at hretried
  obtain ⟨hnone, hsame, hcommand, hfresh, hcalls⟩ := hretried
  exact ⟨hcreate, hoperations, rfl, hrefused, hattempted, hfree, hnone, hsame, hcommand, hfresh, hcalls, hreply⟩

end Command

end InProcessSql
