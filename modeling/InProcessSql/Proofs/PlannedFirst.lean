import InProcessSql.Proofs.Executor.LaterErrors
import InProcessSql.Proofs.KeptPlans
import InProcessSql.Proofs.RefusedPlans

/-!
# Planning comes first

Errors of planning are found out before the executor is called. `Command.plansFirst_performAll` says that a command
which is prepared or executed in vain because of one is left as it was, with its connection, and that an execution which
has called the executor had a plan. The errors of executions and of readers are others, for every executor that answers
none of planning.
-/

namespace InProcessSql

open Step

/-- A plan is refused with an error of planning. -/
theorem Plan.isOfPlanning_of_eq_error {sql : String} {ps : Parameters} {e : Error}
    (h : Plan.of sql ps = .error e) : e.isOfPlanning = true := by
  rcases Plan.of_cases sql ps with ⟨-, hplan⟩ | ⟨-, text, hplan⟩
  · cases hplan.symm.trans h
    rfl
  · cases hoids : ps.types.mapM SqlType.oid with
    | ok oids =>
      rw [hplan, hoids] at h
      cases h
    | error e' =>
      rw [hplan, hoids] at h
      cases h
      obtain ⟨before, p, after, type, -, -, -, rfl⟩ := Parameters.mapM_oid_eq_error_iff.1 hoids
      rfl

/-! ## Errors of executions -/

section Executions

variable {σ : Type} [Executor σ]

/-- A column that is not there is told later than the plan. -/
theorem Reader.isLater_of_column {r : Reader σ} {i : Nat} {e : Error} (h : r.column i = .error e) : e.IsLater := by
  unfold column at h
  split_ifs at h
  · cases h
    rfl
  · cases hcolumn : r.columns.bind fun cs => cs.get? i <;> rw [hcolumn] at h <;> cases h
    rfl

/-- A row that is not there is told later than the plan. -/
theorem Reader.isLater_of_place {r : Reader σ} {i : Nat} {e : Error} (h : r.place i = .error e) : e.IsLater := by
  unfold place at h
  cases hplace : r.row?.bind fun row => row[i]? <;> rw [hplace] at h <;> cases h
  rfl

namespace Executor.NeverPlans

/-- Binding a value fails with later errors only. -/
theorem bindPlace (h : NeverPlans σ) (v : Value) (oid : Oid) :
    FailsWith Error.IsLater (bindPlace v oid : Step σ Error (Place σ)) :=
  failsWith_ite (failsWith_ret _) (.bind (h.writeDatum v oid) fun _ => failsWith_ret _)

/-- Binding values fails with later errors only. -/
theorem bindPlaces (h : NeverPlans σ) (bindings : List (Value × Oid)) :
    FailsWith Error.IsLater (bindPlaces bindings : Step σ Error (List (Place σ))) := by
  induction bindings with
  | nil => exact failsWith_ret _
  | cons binding rest ih => exact .bind (h.bindPlace _ _) fun _ => .bind ih fun _ => failsWith_ret _

/-- Opening a cursor fails with later errors only. -/
theorem opening (h : NeverPlans σ) {plan : Plan} {bindings : List (Value × Oid)} {s t : σ} {e : Error}
    (hopening : Command.Opening plan bindings s (.error e) t) : e.IsLater := by
  cases hopening with
  | prepareFailed hprepare => exact h.prepare _ _ hprepare
  | bindFailed hprepare hbind => exact h.bindPlaces _ hbind
  | openFailed hprepare hbind hopen => exact h.openCursor _ _ hopen

/-- Running a plan to completion fails with later errors only. -/
theorem running (h : NeverPlans σ) {plan : Plan} {bindings : List (Value × Oid)} {options : Options} {s t : σ}
    {e : Error} (hrunning : Command.Running plan bindings options s (.error e) t) : e.IsLater := by
  cases hrunning with
  | executed hoids hexecute => exact h.execute _ _ _ hexecute
  | prepareFailed hoids hprepare => exact h.prepare _ _ hprepare
  | bindFailed hoids hprepare hbind => exact h.bindPlaces _ hbind
  | executedPrepared hoids hprepare hbind hexecute => exact h.executePrepared _ _ _ _ hexecute

/-- Fetching a row fails with later errors only. -/
theorem fetching (h : NeverPlans σ) {cursor : Executor.Cursor σ} {known : Option Columns}
    {previous : Option (List (Place σ))} {s t : σ} {e : Error}
    (hfetching : Reader.Fetching cursor known previous s (.error e) t) : e.IsLater := by
  cases hfetching with
  | fetchFailed hfetch => exact h.fetch _ hfetch
  | columnsFailed hfetch hsize hknown hcolumns => exact h.columns _ hcolumns

/-- Moving a reader fails with later errors only. -/
theorem read (h : NeverPlans σ) {r : Reader σ} {c : Connection σ} {e : Error} (hread : (r.read c).1 = .error e) :
    e.IsLater := by
  rcases r.read_cases c with ⟨-, hr⟩ | ⟨_, cursor, row, -, ⟨_, _, _, -, hr⟩ | ⟨_, -, hr⟩ | ⟨e', c', hfetch, hr⟩⟩
  all_goals rw [hr] at hread
  · cases hread
  · cases hread
  · cases hread
  · cases hread
    have hfetching := Reader.fetching_fetchRow cursor r.columns row c
    rw [hfetch] at hfetching
    exact h.fetching hfetching

/-- Looking at a value fails with later errors only. -/
theorem value (h : NeverPlans σ) {r : Reader σ} {c : Connection σ} {i : Nat} {e : Error}
    (hvalue : (r.value i c).1 = .error e) : e.IsLater := by
  cases hcolumn : r.column i with
  | error e' =>
    simp only [Reader.value, hcolumn, Step.fail_apply, Except.error.injEq] at hvalue
    exact hvalue ▸ Reader.isLater_of_column hcolumn
  | ok column =>
    cases hplace : r.place i with
    | error e' =>
      simp only [Reader.value, hcolumn, hplace, Step.fail_apply, Except.error.injEq] at hvalue
      exact hvalue ▸ Reader.isLater_of_place hplace
    | ok place =>
      cases hnull : place.isNull with
      | true =>
        simp only [Reader.value, hcolumn, hplace, hnull, if_true, Step.ret_apply] at hvalue
        cases hvalue
      | false =>
        simp only [Reader.value, hcolumn, hplace, hnull, Bool.false_eq_true, if_false, Connection.readDatum,
          Connection.onExecutor] at hvalue
        apply h.readDatum place.datum column.oid c.executor e
        rw [← hvalue]
        rcases Executor.readDatum place.datum column.oid c.executor with ⟨_ | _, s⟩ <;> rfl

/-- Taking the first value fails with later errors only. -/
theorem firstValue (h : NeverPlans σ) {r : Reader σ} {c : Connection σ} {e : Error}
    (hfirst : (Command.firstValue r c).1 = .error e) : e.IsLater := by
  unfold Command.firstValue at hfirst
  rcases hread : r.read c with ⟨e' | _ | _, r', c'⟩
  · rw [hread] at hfirst
    cases hfirst
    exact h.read (congrArg Prod.fst hread)
  · rw [hread] at hfirst
    cases hfirst
  · rw [hread] at hfirst
    simp only at hfirst
    rcases hvalue : r'.value 0 c' with ⟨e' | v, c''⟩
    · rw [hvalue] at hfirst
      cases hfirst
      exact h.value (congrArg Prod.fst hvalue)
    · rw [hvalue] at hfirst
      cases hfirst

end Executor.NeverPlans

end Executions

namespace Command

/-! ## Outcomes -/

section Outcomes

variable {σ : Type} {cmd : Command} {c : Connection σ}

/-- The outcome of preparing or executing a command, as it is if planning comes first: an error of planning leaves the
command and the connection as they were, a plan that is refused is such an error, and an executor that is not as it was
was called with a plan for the command. -/
structure PlannedFirst {α : Type} (cmd : Command) (c : Connection σ)
    (outcome : Except Error α × Command × Connection σ) : Prop where
  unchanged : ∀ e, e.isOfPlanning = true → outcome.1 = .error e → outcome.2 = (cmd, c)
  refused : ∀ e, (cmd.prepare c).1 = .error e → e.isOfPlanning = true ∧ outcome = (.error e, cmd, c)
  called : outcome.2.2.executor ≠ c.executor → ∃ plan, (cmd.prepare c).1 = .ok plan ∧ cmd.Current plan

/-- A command that cannot be planned keeps no plan, and is left as it is. -/
theorem prepare_of_error {e : Error} (h : (cmd.prepare c).1 = .error e) :
    e.isOfPlanning = true ∧ cmd.prepare c = (.error e, cmd, c) := by
  rcases hprepare : cmd.prepare c with ⟨_ | plan, cmd', c'⟩
  · rw [hprepare] at h
    cases h
    obtain ⟨rfl, rfl⟩ := prepare_eq_error hprepare
    refine ⟨?_, rfl⟩
    rw [prepare] at hprepare
    split at hprepare
    · cases hprepare
    · split at hprepare
      · rename_i hplan
        cases hprepare
        exact Plan.isOfPlanning_of_eq_error hplan
      · cases hprepare
  · rw [hprepare] at h
    cases h

/-- An outcome is the refusal of a plan, or there is a plan and all errors of the outcome are later ones. -/
theorem plannedFirst_of {α : Type} {outcome : Except Error α × Command × Connection σ} (hcoherent : cmd.Coherent)
    (hrefused : ∀ e, cmd.prepare c = (.error e, cmd, c) → outcome = (.error e, cmd, c))
    (hplanned : ∀ plan cmd' c' e, cmd.prepare c = (.ok plan, cmd', c') → outcome.1 = .error e → e.IsLater) :
    PlannedFirst cmd c outcome := by
  rcases hprepare : cmd.prepare c with ⟨e | plan, cmd', c'⟩
  · -- The outcome is the refusal itself, so that nothing has changed.
    obtain ⟨hplanning, hsame⟩ := prepare_of_error (congrArg Prod.fst hprepare)
    have houtcome := hrefused e hsame
    refine ⟨fun _ _ _ => by rw [houtcome], fun e' he' => ?_, fun hcalled => ?_⟩
    · rw [hsame] at he'
      cases he'
      exact ⟨hplanning, houtcome⟩
    · rw [houtcome] at hcalled
      exact absurd rfl hcalled
  · -- There is a plan, and no error is one of planning.
    have hfst : (cmd.prepare c).1 = .ok plan := congrArg Prod.fst hprepare
    refine ⟨fun e he houtcome => ?_, fun e he => ?_, fun _ => ⟨plan, hfst, (prepare_eq_ok hcoherent hprepare).1⟩⟩
    · have hlater : e.isOfPlanning = false := hplanned plan cmd' c' e hprepare houtcome
      rw [he] at hlater
      cases hlater
    · rw [hfst] at he
      cases he

end Outcomes

/-! ## Executions -/

section Executions

variable {σ : Type} [Executor σ] {cmd cmd' : Command} {c c' : Connection σ} {plan : Plan} {e : Error}

/-- Without a plan nothing is executed, and the error is that of the plan. -/
theorem executeNonQuery_of_error (h : cmd.prepare c = (.error e, cmd, c)) :
    cmd.executeNonQuery c = (.error e, cmd, c) := by
  rw [executeNonQuery, h]

/-- Without a plan there is no reader, and the error is that of the plan. -/
theorem executeReader_of_error (h : cmd.prepare c = (.error e, cmd, c)) :
    cmd.executeReader c = (.error e, cmd, c) := by
  unfold executeReader
  split_ifs
  · rw [h]
  · rw [executeNonQuery_of_error h]

/-- Without a plan there is no value, and the error is that of the plan. -/
theorem executeScalar_of_error (h : cmd.prepare c = (.error e, cmd, c)) :
    cmd.executeScalar c = (.error e, cmd, c) := by
  rw [executeScalar, executeReader_of_error h]

/-- With a plan, an execution to completion fails with later errors only. -/
theorem isLater_of_executeNonQuery (hnever : Executor.NeverPlans σ) (hprepare : cmd.prepare c = (.ok plan, cmd', c'))
    (h : (cmd.executeNonQuery c).1 = .error e) : e.IsLater := by
  rw [executeNonQuery, hprepare] at h
  simp only at h
  rcases Connection.within_cases (run plan cmd'.parameters c'.options) c' with ⟨-, hwithin⟩ | ⟨-, hwithin⟩
  · rw [hwithin] at h
    cases h
    rfl
  · rw [hwithin] at h
    have hrunning := running_run plan cmd'.parameters c'.options c'.asked
    cases hrun : (run plan cmd'.parameters c'.options c'.asked).1 with
    | ok n =>
      rw [hrun] at h
      cases h
    | error e' =>
      rw [hrun] at h hrunning
      cases h
      exact hnever.running hrunning

/-- With a plan, an execution for a reader fails with later errors only. -/
theorem isLater_of_executeReader (hnever : Executor.NeverPlans σ) (hprepare : cmd.prepare c = (.ok plan, cmd', c'))
    (h : (cmd.executeReader c).1 = .error e) : e.IsLater := by
  unfold executeReader at h
  split_ifs at h
  · rw [hprepare] at h
    simp only at h
    have hopening := opening_openCursor plan cmd'.parameters c'.asked
    rcases Connection.opening_cases (openCursor plan cmd'.parameters) c' with
      ⟨-, hopen⟩ | ⟨-, ⟨r, c'', -, hopen⟩ | ⟨e', c'', hfailed, hopen⟩⟩
    · rw [hopen] at h
      cases h
      rfl
    · rw [hopen] at h
      cases h
    · rw [hopen] at h
      cases h
      rw [hfailed] at hopening
      exact hnever.opening hopening
  · apply isLater_of_executeNonQuery hnever hprepare
    rcases hexecute : cmd.executeNonQuery c with ⟨_ | n, cmd'', c''⟩
    · rw [hexecute] at h
      cases h
      rfl
    · rw [hexecute] at h
      cases h

/-- With a plan, an execution for a single value fails with later errors only. -/
theorem isLater_of_executeScalar (hnever : Executor.NeverPlans σ) (hprepare : cmd.prepare c = (.ok plan, cmd', c'))
    (h : (cmd.executeScalar c).1 = .error e) : e.IsLater := by
  unfold executeScalar at h
  rcases hexecute : cmd.executeReader c with ⟨e' | r, cmd'', c''⟩
  · rw [hexecute] at h
    cases h
    exact isLater_of_executeReader hnever hprepare (congrArg Prod.fst hexecute)
  · rw [hexecute] at h
    exact hnever.firstValue h

end Executions

/-- Planning comes first whether the command is prepared or executed, and in each way of executing it. -/
structure PlansFirst {σ : Type} [Executor σ] (cmd : Command) (c : Connection σ) : Prop where
  prepare : PlannedFirst cmd c (cmd.prepare c)
  executeNonQuery : PlannedFirst cmd c (cmd.executeNonQuery c)
  executeReader : PlannedFirst cmd c (cmd.executeReader c)
  executeScalar : PlannedFirst cmd c (cmd.executeScalar c)

/-- Commands plan first if the executor never fails with an error of planning. -/
theorem plansFirst_of_neverPlans {σ : Type} [Executor σ] (hnever : Executor.NeverPlans σ) {cmd : Command}
    (hcoherent : cmd.Coherent) (c : Connection σ) : cmd.PlansFirst c where
  prepare := by
    apply plannedFirst_of hcoherent
    · exact fun e h => h
    · intro plan cmd' c' e hprepare h
      rw [hprepare] at h
      cases h
  executeNonQuery :=
    plannedFirst_of hcoherent (fun _ => executeNonQuery_of_error) fun _ _ _ _ => isLater_of_executeNonQuery hnever
  executeReader :=
    plannedFirst_of hcoherent (fun _ => executeReader_of_error) fun _ _ _ _ => isLater_of_executeReader hnever
  executeScalar :=
    plannedFirst_of hcoherent (fun _ => executeScalar_of_error) fun _ _ _ _ => isLater_of_executeScalar hnever

/-- Whatever has been done with a command, planning it comes first, on the scripted executor and on the native executor
over any layer: if preparing or executing it answers that parameter styles are mixed or that a type is not supported,
its text, its parameters, its plan and the connection are as before, and so is the executor; this is the answer
whenever there is no plan; and if the executor is not as before, there was a plan for the text and the parameters. -/
theorem plansFirst_performAll {text : String} {cmd₀ cmd : Command} (hcreate : create text = .ok cmd₀) {σ₀ : Type}
    [Executor σ₀] {c₀ : Connection σ₀} {operations : List CommandOperation}
    (hoperations : (cmd₀.performAll c₀ operations).1 = cmd) :
    (∀ c : Connection Scripted, cmd.PlansFirst c) ∧
      ∀ (σ : Type) [NativeLayer σ] (c : Connection (Native σ)), cmd.PlansFirst c := by
  obtain ⟨-, hcoherent⟩ := coherent_performAll (hasText_create hcreate) (coherent_create hcreate) c₀ operations
  rw [hoperations] at hcoherent
  constructor
  · intro c
    exact plansFirst_of_neverPlans Scripted.neverPlans hcoherent c
  · intro σ _ c
    exact plansFirst_of_neverPlans Native.neverPlans hcoherent c

/-- A query that was executed with a named parameter and has since been given one without a name. -/
theorem plansFirst_performAll_mixed :
    let cmd : Command := { text := "select $1", parameters := ⟨[.named "a" (.int4 1), .positional .null]⟩ }
    let operations : List CommandOperation :=
      [.request (.withParameter "@a" (.int4 1)), .request .scalar, .request (.withValue .null)]
    create "select @a" = .ok { text := "select @a" } ∧
      ((Command.mk "select @a" {} none).performAll ({ executor := {} } : Connection Scripted) operations).1 = cmd ∧
      ((∀ c : Connection Scripted, cmd.PlansFirst c) ∧
        ∀ (σ : Type) [NativeLayer σ] (c : Connection (Native σ)), cmd.PlansFirst c) ∧
      ∀ c : Connection Scripted, (cmd.executeScalar c).1 = .error .mixedParameterStyle := by
  intro cmd operations
  have hcreate : create "select @a" = .ok { text := "select @a" } := rfl
  have hoperations : ((Command.mk "select @a" {} none).performAll ({ executor := {} } : Connection Scripted)
      operations).1 = cmd := by cbv
  refine ⟨hcreate, hoperations, plansFirst_performAll hcreate hoperations, fun c => ?_⟩
  rw [executeScalar_of_error rfl]

end Command

end InProcessSql
