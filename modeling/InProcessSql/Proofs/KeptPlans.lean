import InProcessSql.Executor.Scripted
import InProcessSql.Proofs.Plans
import InProcessSql.Proofs.QueryTexts

/-!
# Commands with a plan

A command keeps the plan that it has been given until its text or its parameters change, and puts the
numbered text of the plan in place of its own. `Command.plan_performAll` says that the plan which a command
keeps is the one for its text and parameters, whatever has been done with the command, and that only setting
the text decides whether the command is a query. `Command.execute_prepare` says that a command may be
prepared before it is executed: the execution goes as it would have gone without.
-/

namespace InProcessSql

open InProcessSql.Text

namespace Command

variable {σ : Type}

/-! ## Planning and the text -/

/-- Planning keeps the text, or numbers its placeholders. -/
theorem text_prepare (cmd : Command) (c : Connection σ) :
    (cmd.prepare c).2.1.text = cmd.text ∨
      ∃ names, (cmd.prepare c).2.1.text = Sql.rewrite names cmd.text := by
  rw [prepare]
  split
  · exact .inl rfl
  · split
    · exact .inl rfl
    · rename_i plan hplan
      rcases Plan.sql_cases hplan with hsql | ⟨-, hsql⟩
      · exact .inl hsql
      · exact .inr ⟨_, hsql⟩

/-- Preparing a command leaves it a query or not, as it was. -/
theorem isQuery_prepare (cmd : Command) (c : Connection σ) :
    (cmd.prepare c).2.1.isQuery = cmd.isQuery := by
  rcases cmd.text_prepare c with htext | ⟨names, htext⟩
  · rw [isQuery, htext, isQuery]
  · rw [isQuery, htext, Sql.rewrite, String.toList_ofList, isQueryText_rewriteChars, isQuery]

/-- A command that has been prepared is prepared already. -/
theorem prepare_prepare (cmd : Command) (c : Connection σ) :
    (cmd.prepare c).2.1.prepare (cmd.prepare c).2.2 = cmd.prepare c := by
  rcases hprepare : cmd.prepare c with ⟨_ | plan, cmd', c'⟩
  · obtain ⟨rfl, rfl⟩ := prepare_eq_error hprepare
    exact hprepare
  · have hplan := plan_of_prepare hprepare
    simp only [prepare, hplan]

/-- The text has other characters than blanks. -/
def HasText (cmd : Command) : Prop := isAllBlank cmd.text.toList = false

theorem hasText_of_checkText {cmd : Command} (h : checkText cmd.text = .ok ()) : cmd.HasText := by
  rw [checkText] at h
  split at h
  · cases h
  · rename_i hblank
    exact Bool.eq_false_iff.2 hblank

/-- A command is created with a text that is not blank. -/
theorem hasText_create {text : String} {cmd : Command} (h : create text = .ok cmd) : cmd.HasText := by
  rw [create] at h
  cases hcheck : checkText text <;> rw [hcheck] at h <;> cases h
  exact hasText_of_checkText hcheck

/-- A text that is set is not blank. -/
theorem hasText_setText {cmd cmd' : Command} {text : String} (h : cmd.setText text = .ok cmd') :
    cmd'.HasText := by
  rw [setText] at h
  cases hcheck : checkText text <;> rw [hcheck] at h <;> cases h
  exact hasText_of_checkText hcheck

/-- Planning leaves a text. -/
theorem HasText.prepare {cmd : Command} (h : cmd.HasText) (c : Connection σ) :
    (cmd.prepare c).2.1.HasText := by
  rcases cmd.text_prepare c with htext | ⟨names, htext⟩
  · rwa [HasText, htext]
  · rwa [HasText, htext, Sql.rewrite, String.toList_ofList, isAllBlank_rewriteChars]

end Command

/-! ## Operations -/

/-- What can be done with a command. -/
inductive CommandOperation where
  | request (request : CommandRequest)
  | editParameters (edit : Parameters → Parameters)

namespace CommandOperation

/-- Whether the operation sets the text. -/
def setsText : CommandOperation → Bool
  | .request (.setText _) => true
  | _ => false

theorem eq_setText_of_setsText {operation : CommandOperation} (h : operation.setsText = true) :
    ∃ text, operation = .request (.setText text) := by
  unfold setsText at h
  split at h
  · exact ⟨_, rfl⟩
  · cases h

end CommandOperation

namespace Command

variable {σ : Type} [Executor σ]

def perform (cmd : Command) (c : Connection σ) : CommandOperation → Command × Connection σ
  | .request request => (cmd.answer c request).2
  | .editParameters edit => (cmd.setParameters (edit cmd.parameters), c)

def performAll (cmd : Command) (c : Connection σ) : List CommandOperation → Command × Connection σ
  | [] => (cmd, c)
  | operation :: rest =>
    let (cmd, c) := cmd.perform c operation
    performAll cmd c rest

/-- What an operation makes of a command if it does not set the text: the command itself, the command with
other parameters, or the command prepared. -/
theorem perform_cases (cmd : Command) (c : Connection σ) {operation : CommandOperation}
    (h : operation.setsText = false) :
    (cmd.perform c operation).1 = cmd ∨
      (∃ ps, (cmd.perform c operation).1 = cmd.setParameters ps) ∨
      (cmd.perform c operation).1 = (cmd.prepare c).2.1 := by
  cases operation with
  | editParameters edit => exact .inr (.inl ⟨_, rfl⟩)
  | request request =>
    cases request with
    | setText text => cases h
    | text | isQuery | parameters => exact .inl rfl
    | withParameter name value => exact .inr (.inl ⟨_, rfl⟩)
    | withValue value => exact .inr (.inl ⟨_, rfl⟩)
    | edit request => exact .inr (.inl ⟨_, rfl⟩)
    | prepare => exact .inr (.inr rfl)
    | nonQuery => exact .inr (.inr (command_executeNonQuery cmd c))
    | scalar => exact .inr (.inr (command_executeScalar cmd c))
    | reader requests => exact .inr (.inr (command_reader cmd c requests))

/-- Every operation leaves a text. -/
theorem HasText.perform {cmd : Command} (h : cmd.HasText) (c : Connection σ)
    (operation : CommandOperation) : (cmd.perform c operation).1.HasText := by
  cases hsets : operation.setsText with
  | false =>
    rcases cmd.perform_cases c hsets with heq | ⟨ps, heq⟩ | heq
    · rwa [heq]
    · rwa [heq]
    · rw [heq]
      exact h.prepare c
  | true =>
    obtain ⟨text, rfl⟩ := CommandOperation.eq_setText_of_setsText hsets
    rw [Command.perform, answer]
    cases hset : cmd.setText text with
    | error e => exact h
    | ok cmd' => exact hasText_setText hset

/-- Every operation leaves a plan, if there is one, that is that of text and parameters. -/
theorem Coherent.perform {cmd : Command} (h : cmd.Coherent) (c : Connection σ)
    (operation : CommandOperation) : (cmd.perform c operation).1.Coherent := by
  cases operation with
  | request request => exact h.answer c request
  | editParameters edit => exact coherent_of_plan_eq_none rfl

/-- Any operations keep a command coherent and leave it with a text. -/
theorem coherent_performAll {cmd : Command} (htext : cmd.HasText) (h : cmd.Coherent) (c : Connection σ)
    (operations : List CommandOperation) :
    (cmd.performAll c operations).1.HasText ∧ (cmd.performAll c operations).1.Coherent := by
  induction operations generalizing cmd c with
  | nil => exact ⟨htext, h⟩
  | cons operation rest ih => exact ih (htext.perform c operation) (h.perform c operation) _

/-- An operation that does not set the text leaves the command a query or not, as it was. -/
theorem isQuery_perform (cmd : Command) (c : Connection σ) {operation : CommandOperation}
    (h : operation.setsText = false) : (cmd.perform c operation).1.isQuery = cmd.isQuery := by
  rcases cmd.perform_cases c h with heq | ⟨ps, heq⟩ | heq
  · rw [heq]
  · rw [heq]
    rfl
  · rw [heq, isQuery_prepare]

/-- Whatever has been done with a command, it has a text with other characters than blanks, and a plan that
it keeps has this text, the types of the parameters and the OIDs of these types, so that each parameter is
handed over with its value and its OID. From then on, too, only setting the text can make a query of it or
stop it from being one. -/
theorem plan_performAll {text : String} {cmd₀ cmd : Command} (hcreate : create text = .ok cmd₀)
    {c₀ : Connection σ} {operations : List CommandOperation}
    (hoperations : (cmd₀.performAll c₀ operations).1 = cmd) :
    isAllBlank cmd.text.toList = false ∧
      (∀ plan, cmd.plan = some plan →
        plan.sql = cmd.text ∧ plan.types = cmd.parameters.toList.map Parameter.type ∧
          List.Forall₂ (fun type oid => SqlType.oid type = .ok oid) plan.types plan.oids ∧
          plan.types.length = cmd.parameters.size ∧ plan.oids.length = cmd.parameters.size ∧
          (cmd.parameters.bindings plan.oids).map Prod.fst = cmd.parameters.toList.map Parameter.value ∧
          (cmd.parameters.bindings plan.oids).map Prod.snd = plan.oids) ∧
      ∀ (c : Connection σ) (operation : CommandOperation), operation.setsText = false →
        (cmd.perform c operation).1.isQuery = cmd.isQuery := by
  obtain ⟨htext, hcoherent⟩ :=
    coherent_performAll (hasText_create hcreate) (coherent_create hcreate) c₀ operations
  rw [hoperations] at htext hcoherent
  refine ⟨htext, fun plan hplan => ?_, fun c operation h => isQuery_perform cmd c h⟩
  obtain ⟨hsql, source, hsource⟩ := hcoherent plan hplan
  have hfits := Plan.fits_of hsource
  have hoids : List.Forall₂ (fun type oid => SqlType.oid type = .ok oid) plan.types plan.oids := by
    rw [hfits.types, Parameters.types, List.forall₂_map_left_iff]
    exact hfits.oids
  exact ⟨hsql, hfits.types, hoids, by rw [hfits.types, Parameters.length_types]; rfl, hfits.length_oids,
    hfits.map_fst_bindings, hfits.map_snd_bindings⟩

/-- A query that keeps its plan after a text was refused and planning failed with a parameter too many. -/
theorem plan_performAll_refused :
    let cmd₀ : Command := { text := "\u3000SELECT @a" }
    let plan : Plan := ⟨"\u3000SELECT $1", [.scalar .integer], [23]⟩
    let cmd : Command :=
      { text := "\u3000SELECT $1", parameters := ⟨[.named "a" (.int4 1)]⟩, plan := some plan }
    let operations : List CommandOperation := [.request (.withParameter "@a" (.int4 1)), .request .scalar,
      .request (.setText " "), .editParameters fun ps => ps.add (.positional .null), .request .nonQuery,
      .editParameters fun ps => ⟨ps.toList.take 1⟩, .request .prepare]
    create "\u3000SELECT @a" = .ok cmd₀ ∧
      (cmd₀.performAll ({ executor := {} } : Connection Scripted) operations).1 = cmd ∧
      isAllBlank cmd.text.toList = false ∧
      (plan.sql = cmd.text ∧ plan.types = cmd.parameters.toList.map Parameter.type ∧
        List.Forall₂ (fun type oid => SqlType.oid type = .ok oid) plan.types plan.oids ∧
        plan.types.length = cmd.parameters.size ∧ plan.oids.length = cmd.parameters.size ∧
        (cmd.parameters.bindings plan.oids).map Prod.fst = cmd.parameters.toList.map Parameter.value ∧
        (cmd.parameters.bindings plan.oids).map Prod.snd = plan.oids) ∧
      ∀ (c : Connection Scripted) (operation : CommandOperation), operation.setsText = false →
        (cmd.perform c operation).1.isQuery = cmd.isQuery := by
  intro cmd₀ plan cmd operations
  have hcreate : create "\u3000SELECT @a" = .ok cmd₀ := rfl
  have hoperations :
      (cmd₀.performAll ({ executor := {} } : Connection Scripted) operations).1 = cmd := by cbv
  obtain ⟨htext, hplan, hquery⟩ := plan_performAll hcreate hoperations
  exact ⟨hcreate, hoperations, htext, hplan plan rfl, hquery⟩

/-! ## Executions of a prepared command -/

/-- A command that is prepared first, also in vain, is executed as it would have been without: with the same
outcome and the same reader, and the same command and connection after it, hence the same calls of the
executor. The reader answers all requests in the same way. -/
theorem execute_prepare (cmd : Command) (c : Connection σ) :
    (cmd.prepare c).2.1.executeNonQuery (cmd.prepare c).2.2 = cmd.executeNonQuery c ∧
      (cmd.prepare c).2.1.executeReader (cmd.prepare c).2.2 = cmd.executeReader c ∧
      (cmd.prepare c).2.1.executeScalar (cmd.prepare c).2.2 = cmd.executeScalar c ∧
      ∀ requests : List ReaderRequest,
        (cmd.prepare c).2.1.answer (cmd.prepare c).2.2 (.reader requests)
          = cmd.answer c (.reader requests) := by
  have hnonQuery : (cmd.prepare c).2.1.executeNonQuery (cmd.prepare c).2.2 = cmd.executeNonQuery c := by
    rw [executeNonQuery, prepare_prepare, executeNonQuery]
  have hreader : (cmd.prepare c).2.1.executeReader (cmd.prepare c).2.2 = cmd.executeReader c := by
    rw [executeReader, isQuery_prepare, prepare_prepare, hnonQuery, executeReader]
  refine ⟨hnonQuery, hreader, ?_, fun requests => ?_⟩
  · rw [executeScalar, hreader, executeScalar]
  · rw [answer, hreader, answer]

end Command

end InProcessSql
