import Mathlib
import InProcessSql.Proofs.Executions
import InProcessSql.Proofs.FallibleMap

/-!
# Plans and the commands that keep them

A plan has an OID for each parameter. A command keeps its plan until its text or its parameters change;
`Command.Coherent` says that a plan it keeps has its text and was made with its parameters, and
`Command.coherent_answerAll` that this is so whatever the command has been asked for.
-/

namespace InProcessSql

/-! ## Plans -/

/-- The plan has the type of each parameter, and the OID of that type. -/
structure Plan.Fits (plan : Plan) (ps : Parameters) : Prop where
  types : plan.types = ps.types
  oids : List.Forall₂ (fun p oid => (Parameter.type p).oid = .ok oid) ps.toList plan.oids

theorem Plan.Fits.length_oids {plan : Plan} {ps : Parameters} (h : plan.Fits ps) :
    plan.oids.length = ps.toList.length := h.oids.length_eq.symm

/-- Only a plan without parameters has no OID. -/
theorem Plan.Fits.oids_eq_nil_iff {plan : Plan} {ps : Parameters} (h : plan.Fits ps) :
    plan.oids = [] ↔ ps.toList = [] := by
  rw [← List.length_eq_zero_iff, ← List.length_eq_zero_iff, h.length_oids]

/-- With an OID for each parameter, every parameter is handed over with its value. -/
theorem Plan.Fits.map_fst_bindings {plan : Plan} {ps : Parameters} (h : plan.Fits ps) :
    (ps.bindings plan.oids).map Prod.fst = ps.toList.map Parameter.value := by
  have hlength : (ps.toList.map Parameter.value).length = plan.oids.length := by
    rw [List.length_map, h.length_oids]
  rw [Parameters.bindings, List.map_fst_zip (Nat.le_of_eq hlength)]

/-- With an OID for each parameter, every OID goes with a parameter. -/
theorem Plan.Fits.map_snd_bindings {plan : Plan} {ps : Parameters} (h : plan.Fits ps) :
    (ps.bindings plan.oids).map Prod.snd = plan.oids := by
  have hlength : plan.oids.length = (ps.toList.map Parameter.value).length := by
    rw [List.length_map, h.length_oids]
  rw [Parameters.bindings, List.map_snd_zip (Nat.le_of_eq hlength)]

/-- A plan fits the parameters that it was made for. -/
theorem Plan.fits_of {sql : String} {ps : Parameters} {plan : Plan} (h : Plan.of sql ps = .ok plan) :
    plan.Fits ps := by
  rw [Plan.of] at h
  split at h
  · cases h
  · split at h
    · cases h
    · rename_i oids hoids
      cases h
      rw [mapM_eq_ok_iff, Parameters.types, List.forall₂_map_left_iff] at hoids
      exact ⟨rfl, hoids⟩

/-- Each parameter has its OID where it stands. -/
theorem Plan.Fits.exists_oid {plan : Plan} {ps : Parameters} (h : plan.Fits ps) {k : Nat} {p : Parameter}
    (hp : ps.toList[k]? = some p) : ∃ oid, plan.oids[k]? = some oid ∧ p.type.oid = .ok oid := by
  obtain ⟨hk, rfl⟩ := List.getElem?_eq_some_iff.1 hp
  have hk' : k < plan.oids.length := by rwa [h.length_oids]
  exact ⟨plan.oids[k], List.getElem?_eq_getElem hk', List.Forall₂.get h.oids hk hk'⟩

/-- The text of a plan is that of the command, unless the parameters are referred to by name. -/
theorem Plan.sql_cases {sql : String} {ps : Parameters} {plan : Plan} (h : Plan.of sql ps = .ok plan) :
    plan.sql = sql ∨ ps.style = .ok (some .named) ∧ plan.sql = Sql.rewrite ps.names sql := by
  rw [Plan.of] at h
  split at h
  · cases h
  · rename_i style hstyle
    split at h
    · cases h
    · cases h
      rcases style with _ | _ | _
      · exact .inl rfl
      · exact .inl rfl
      · exact .inr ⟨hstyle, rfl⟩

/-- Without parameters the text is planned as it is. -/
theorem Plan.sql_of_isEmpty {sql : String} {ps : Parameters} {plan : Plan} (h : Plan.of sql ps = .ok plan)
    (hps : ps.toList = []) : plan.sql = sql := by
  obtain ⟨list⟩ := ps
  obtain rfl : list = [] := hps
  cases h
  rfl

/-! ## Commands -/

namespace Command

/-- The plan that the command keeps, if any, has its text and was made with its parameters. -/
def Coherent (cmd : Command) : Prop :=
  ∀ plan, cmd.plan = some plan → plan.sql = cmd.text ∧ ∃ source, Plan.of source cmd.parameters = .ok plan

/-- Without a plan a command is coherent. -/
theorem coherent_of_plan_eq_none {cmd : Command} (h : cmd.plan = none) : cmd.Coherent := by
  intro plan hplan
  rw [h] at hplan
  cases hplan

/-- A command that has just been created is coherent. -/
theorem coherent_create {text : String} {cmd : Command} (h : create text = .ok cmd) : cmd.Coherent := by
  apply coherent_of_plan_eq_none
  rw [create] at h
  cases hcheck : checkText text <;> rw [hcheck] at h <;> cases h
  rfl

/-- A new text takes the plan away. -/
theorem coherent_setText {cmd cmd' : Command} {text : String} (h : cmd.setText text = .ok cmd') :
    cmd'.Coherent := by
  apply coherent_of_plan_eq_none
  rw [setText] at h
  cases hcheck : checkText text <;> rw [hcheck] at h <;> cases h
  rfl

variable {σ : Type}

/-- The plan of the command has been made with its parameters: of its text, unless the command kept the
plan, and then its text is that of the plan already. -/
def Current (cmd : Command) (plan : Plan) : Prop :=
  ∃ source, Plan.of source cmd.parameters = .ok plan ∧
    if cmd.plan.isNone then source = cmd.text else plan.sql = cmd.text

/-- Planning answers the current plan, and keeps it with its text; the parameters stay the same. -/
theorem prepare_eq_ok {cmd cmd' : Command} {c c' : Connection σ} {plan : Plan} (h : cmd.Coherent)
    (hprepare : cmd.prepare c = (.ok plan, cmd', c')) :
    cmd.Current plan ∧ cmd'.plan = some plan ∧ cmd'.text = plan.sql ∧
      cmd'.parameters = cmd.parameters := by
  rw [prepare] at hprepare
  split at hprepare
  · rename_i kept hkept
    cases hprepare
    obtain ⟨hsql, source, hsource⟩ := h plan hkept
    exact ⟨⟨source, hsource, by simpa [hkept] using hsql⟩, hkept, hsql.symm, rfl⟩
  · rename_i hnone
    split at hprepare
    · cases hprepare
    · rename_i made hmade
      cases hprepare
      exact ⟨⟨cmd.text, hmade, by simp [hnone]⟩, rfl, rfl, rfl⟩

/-- A plan that is answered is kept. -/
theorem plan_of_prepare {cmd cmd' : Command} {c c' : Connection σ} {plan : Plan}
    (hprepare : cmd.prepare c = (.ok plan, cmd', c')) : cmd'.plan = some plan := by
  rw [prepare] at hprepare
  split at hprepare
  · rename_i kept hkept
    cases hprepare
    exact hkept
  · split at hprepare
    · cases hprepare
    · cases hprepare
      rfl

/-- A plan that cannot be made leaves the command as it is. -/
theorem prepare_eq_error {cmd cmd' : Command} {c c' : Connection σ} {e : Error}
    (hprepare : cmd.prepare c = (.error e, cmd', c')) : cmd' = cmd ∧ c' = c := by
  rw [prepare] at hprepare
  split at hprepare
  · cases hprepare
  · split at hprepare
    · cases hprepare
      exact ⟨rfl, rfl⟩
    · cases hprepare

/-- Planning keeps a command coherent. -/
theorem Coherent.prepare {cmd : Command} (h : cmd.Coherent) (c : Connection σ) :
    (cmd.prepare c).2.1.Coherent := by
  rcases hprepare : cmd.prepare c with ⟨_ | plan, cmd', c'⟩
  · obtain ⟨rfl, -⟩ := prepare_eq_error hprepare
    exact h
  · obtain ⟨⟨source, hsource, -⟩, hplan, htext, hparameters⟩ := prepare_eq_ok h hprepare
    intro plan' hplan'
    obtain rfl : plan = plan' := Option.some.inj (hplan.symm.trans hplan')
    exact ⟨htext.symm, source, by rwa [show cmd'.parameters = cmd.parameters from hparameters]⟩

variable [Executor σ]

/-! ## Executions change a command as planning does -/

/-- An execution to completion leaves the command as planning does. -/
theorem command_executeNonQuery (cmd : Command) (c : Connection σ) :
    (cmd.executeNonQuery c).2.1 = (cmd.prepare c).2.1 := by
  rw [executeNonQuery]
  rcases cmd.prepare c with ⟨_ | plan, cmd', c'⟩
  · rfl
  · simp only
    rcases Connection.within (run plan cmd'.parameters c'.options) c' with ⟨_ | n, c''⟩ <;> rfl

/-- An execution for a reader leaves the command as planning does. -/
theorem command_executeReader (cmd : Command) (c : Connection σ) :
    (cmd.executeReader c).2.1 = (cmd.prepare c).2.1 := by
  rw [executeReader]
  split
  · rcases cmd.prepare c with ⟨_ | plan, cmd', c'⟩ <;> rfl
  · rw [← command_executeNonQuery]
    rcases cmd.executeNonQuery c with ⟨_ | n, cmd', c'⟩ <;> rfl

/-- An execution for a single value leaves the command as planning does. -/
theorem command_executeScalar (cmd : Command) (c : Connection σ) :
    (cmd.executeScalar c).2.1 = (cmd.prepare c).2.1 := by
  rw [executeScalar, ← command_executeReader]
  rcases cmd.executeReader c with ⟨_ | r, cmd', c'⟩ <;> rfl

/-- Using a reader leaves the command as planning does. -/
theorem command_reader (cmd : Command) (c : Connection σ) (requests : List ReaderRequest) :
    (cmd.answer c (.reader requests)).2.1 = (cmd.prepare c).2.1 := by
  rw [answer, ← command_executeReader]
  rcases cmd.executeReader c with ⟨_ | r, cmd', c'⟩ <;> rfl

/-- Any request keeps a command coherent. -/
theorem Coherent.answer {cmd : Command} (h : cmd.Coherent) (c : Connection σ) (request : CommandRequest) :
    (cmd.answer c request).2.1.Coherent := by
  cases request with
  | setText text =>
    rw [Command.answer]
    cases hset : cmd.setText text with
    | error e => exact h
    | ok cmd' => exact coherent_setText hset
  | withParameter name value => exact coherent_of_plan_eq_none rfl
  | withValue value => exact coherent_of_plan_eq_none rfl
  | edit request => exact coherent_of_plan_eq_none rfl
  | prepare => exact h.prepare c
  | nonQuery =>
    show (cmd.executeNonQuery c).2.1.Coherent
    rw [command_executeNonQuery]
    exact h.prepare c
  | scalar =>
    show (cmd.executeScalar c).2.1.Coherent
    rw [command_executeScalar]
    exact h.prepare c
  | reader requests =>
    rw [command_reader]
    exact h.prepare c
  | text | isQuery | parameters => exact h

/-- A command that has been created and asked for anything is coherent. -/
theorem coherent_answerAll {cmd : Command} (h : cmd.Coherent) (c : Connection σ)
    (requests : List CommandRequest) : (cmd.answerAll c requests).2.1.Coherent := by
  induction requests generalizing cmd c with
  | nil => exact h
  | cons request rest ih => exact ih (h.answer c request) (cmd.answer c request).2.2

end Command

end InProcessSql
