import InProcessSql.Proofs.Executor.ErasedValues
import InProcessSql.Proofs.KeptPlans

/-!
# Values stay out of the text

What the executor is asked for depends on the parameters of a command through their names and types, and on
their values only where these are bound. `Command.Abreast` says of two commands that they differ in the
values of parameters at most, and `Command.Abreast.performAll` that the same operations keep them so, on
every executor that answers alike whatever values it is handed. The scripted executor is one, and
`Command.erasedCalls_performAll` compares the calls that it records.
-/

namespace InProcessSql

/-! ## Parameters that differ in their values -/

/-- The parameters have the same names and types, one by one. -/
def Parameters.SameShape (ps qs : Parameters) : Prop :=
  List.Forall₂ (fun p q => p.name = q.name ∧ p.type = q.type) ps.toList qs.toList

namespace Parameters.SameShape

variable {ps qs : Parameters}

/-- Parameters of the same shape have the same names, also where they have none. -/
theorem map_name_eq (h : ps.SameShape qs) :
    ps.toList.map Parameter.name = qs.toList.map Parameter.name := by
  rw [← List.forall₂_eq_eq_eq, List.forall₂_map_left_iff, List.forall₂_map_right_iff]
  exact h.imp fun _ _ hpq => hpq.1

/-- Parameters of the same shape have the same types. -/
theorem types_eq (h : ps.SameShape qs) : ps.types = qs.types := by
  rw [types, types, ← List.forall₂_eq_eq_eq, List.forall₂_map_left_iff, List.forall₂_map_right_iff]
  exact h.imp fun _ _ hpq => hpq.2

/-- Parameters of the same shape are named alike. -/
theorem names_eq (h : ps.SameShape qs) : ps.names = qs.names := by
  have hnames := congrArg (List.filterMap id) h.map_name_eq
  rwa [List.filterMap_map, List.filterMap_map] at hnames

/-- Parameters of the same shape have the same style. -/
theorem style_eq (h : ps.SameShape qs) : ps.style = qs.style := by
  have hstyle : ∀ ps : Parameters, ps.style = if (ps.toList.map Parameter.name).isEmpty then .ok none
      else if (ps.toList.map Parameter.name).all Option.isNone then .ok (some .positional)
      else if (ps.toList.map Parameter.name).all Option.isSome then .ok (some .named)
      else .error .mixedParameterStyle := by
    intro ps
    rw [style, List.isEmpty_map, List.all_map, List.all_map]
    rfl
  rw [hstyle, hstyle, h.map_name_eq]

/-- Plans do not depend on values: neither the text, nor the OIDs, nor whether there is a plan. -/
theorem planOf_eq (h : ps.SameShape qs) (sql : String) : Plan.of sql ps = Plan.of sql qs := by
  rw [Plan.of, Plan.of, h.style_eq, h.types_eq, h.names_eq]

end Parameters.SameShape

open Connection Scripted

variable {σ : Type} {R : σ → σ → Prop}

/-- Telling of a plan changes neither the executor nor the options. -/
theorem ParametersReply.kept_log (reply : ParametersReply) (c : Connection σ) :
    (reply.log c).executor = c.executor ∧ (reply.log c).options = c.options := by
  cases reply <;> exact ⟨rfl, rfl⟩

/-! ## Commands that differ in the values of parameters -/

namespace Command

/-- Two commands that differ in the values of parameters at most, on connections that are matched. -/
structure Abreast (R : σ → σ → Prop) (x y : Command × Connection σ) : Prop where
  text : x.1.text = y.1.text
  plan : x.1.plan = y.1.plan
  parameters : x.1.parameters.SameShape y.1.parameters
  connection : Matched R x.2 y.2

variable {cmd cmd' : Command} {c d : Connection σ}

/-- Commands that are abreast are so on any connections that are matched. -/
theorem Abreast.on {x y : Command × Connection σ} (h : Abreast R x y) (hcd : Matched R c d) :
    Abreast R (x.1, c) (y.1, d) :=
  ⟨h.text, h.plan, h.parameters, hcd⟩

/-- Commands that are abreast plan alike. -/
theorem Abreast.prepare (h : Abreast R (cmd, c) (cmd', d)) :
    Agreeing (Abreast R) Eq (cmd.prepare c) (cmd'.prepare d) := by
  obtain ⟨text, ps, plan⟩ := cmd
  obtain ⟨text', qs, plan'⟩ := cmd'
  obtain ⟨htext, hplan, hshape, hcd⟩ := h
  obtain rfl : text = text' := htext
  obtain rfl : plan = plan' := hplan
  cases plan with
  | some plan => exact .ok rfl ⟨rfl, rfl, hshape, hcd⟩
  | none =>
    have hof : Plan.of text ps = Plan.of text qs := hshape.planOf_eq text
    simp only [Command.prepare, hof]
    cases Plan.of text qs with
    | error e => exact .error e ⟨rfl, rfl, hshape, hcd⟩
    | ok plan => exact .ok rfl ⟨rfl, rfl, hshape, hcd.emit _ _⟩

/-- Planning leaves the parameters as they are. -/
theorem parameters_prepare (cmd : Command) (c : Connection σ) :
    (cmd.prepare c).2.1.parameters = cmd.parameters := by
  rw [Command.prepare]
  split
  · rfl
  · split <;> rfl

end Command

variable [Executor σ]

/-! ## Statements -/

/-- Values are bound without an error, and unseen. -/
theorem ValuesUnseen.exists_bindPlaces (hR : ValuesUnseen R) (bindings : List (Value × Oid)) (s : σ) :
    ∃ places t, bindPlaces bindings s = (.ok places, t) ∧ R s t := by
  induction bindings generalizing s with
  | nil => exact ⟨[], s, rfl, hR.equivalence.refl s⟩
  | cons binding rest ih =>
    obtain ⟨v, oid⟩ := binding
    have hplace : ∃ place t, bindPlace v oid s = (.ok place, t) ∧ R s t := by
      rw [bindPlace]
      split
      · exact ⟨_, s, rfl, hR.equivalence.refl s⟩
      · obtain ⟨datum, t, hwrite, hst⟩ := hR.writeDatum v oid s
        exact ⟨_, t, Step.bind_of_ok hwrite, hst⟩
    obtain ⟨place, t, hplace, hst⟩ := hplace
    obtain ⟨places, u, hplaces, htu⟩ := ih t
    refine ⟨place :: places, u, ?_, hR.equivalence.trans hst htu⟩
    rw [bindPlaces, Step.bind_of_ok hplace, Step.bind_of_ok hplaces]
    rfl

namespace Command

/-- A statement is prepared alike on matched connections. -/
theorem agree_prepareStatement (hR : ValuesUnseen R) (plan : Plan) :
    Step.Agree (Matched R) Eq (prepareStatement plan) (prepareStatement plan) := by
  refine (agree_onExecutor (hR.prepare plan.sql plan.oids)).bind ?_
  rintro handle _ rfl
  exact (Step.agree_update fun c d h => h.emit _ _).bind fun _ _ _ => Step.agree_pure rfl

/-- Any values are handed over, and only the places tell them apart. -/
theorem agree_bindParameters (hR : ValuesUnseen R) (plan : Plan) (ps qs : Parameters) :
    Step.Agree (Matched R) (fun _ _ => True) (bindParameters plan ps) (bindParameters plan qs) := by
  refine agree_onExecutor fun s t hst => ?_
  obtain ⟨places, s', hbind, hs⟩ := hR.exists_bindPlaces (ps.bindings plan.oids) s
  obtain ⟨places', t', hbind', ht⟩ := hR.exists_bindPlaces (qs.bindings plan.oids) t
  rw [hbind, hbind']
  exact .ok trivial (hR.equivalence.trans (hR.equivalence.symm hs) (hR.equivalence.trans hst ht))

/-- A cursor is opened alike, whatever the values of the parameters are. -/
theorem agree_openCursor (hR : ValuesUnseen R) (plan : Plan) (ps qs : Parameters) :
    Step.Agree (Matched R) Eq (openCursor plan ps) (openCursor plan qs) := by
  refine (agree_prepareStatement hR plan).bind ?_
  rintro statement _ rfl
  refine (agree_bindParameters hR plan ps qs).bind fun places places' _ => ?_
  refine (agree_onExecutor (hR.openCursor statement.handle places places')).bind ?_
  rintro cursor _ rfl
  exact (Step.agree_update fun c d h => h.logStatement _ _).bind fun _ _ _ => Step.agree_pure rfl

/-- A plan is run to completion alike, whatever the values of the parameters are. -/
theorem agree_run (hR : ValuesUnseen R) (plan : Plan) (ps qs : Parameters) (options : Options) :
    Step.Agree (Matched R) Eq (run plan ps options) (run plan qs options) := by
  by_cases hoids : plan.oids.isEmpty
  · have hrun : ∀ ps, (run plan ps options : Action σ Nat) = _ := fun _ => if_pos hoids
    rw [hrun, hrun]
    exact agree_onExecutor (hR.execute _ _ _)
  · have hrun : ∀ ps, (run plan ps options : Action σ Nat) = prepareStatement plan >>= _ :=
      fun _ => if_neg hoids
    rw [hrun, hrun]
    refine (agree_prepareStatement hR plan).bind ?_
    rintro statement _ rfl
    exact (agree_bindParameters hR plan ps qs).bind fun places places' _ =>
      agree_onExecutor (hR.executePrepared _ _ _ _ _)

/-! ## Executions -/

variable {cmd cmd' : Command} {c d : Connection σ}

/-- Commands that are abreast run to completion alike. -/
theorem Abreast.executeNonQuery (hR : ValuesUnseen R) (h : Abreast R (cmd, c) (cmd', d)) :
    Agreeing (Abreast R) Eq (cmd.executeNonQuery c) (cmd'.executeNonQuery d) := by
  obtain ⟨plan, _, ⟨cmd₁, c₁⟩, ⟨cmd₁', d₁⟩, hok, hok', rfl, hplanned⟩ |
    ⟨e, ⟨cmd₁, c₁⟩, ⟨cmd₁', d₁⟩, herror, herror', hplanned⟩ := h.prepare
  · -- Both runs have the same plan now, and differ in what they bind.
    have hoptions : c₁.options = d₁.options := hplanned.connection.options
    simp only [Command.executeNonQuery, hok, hok', ← hoptions]
    have hrun := agree_run hR plan cmd₁.parameters cmd₁'.parameters c₁.options
    obtain ⟨n, _, c₂, d₂, hok, hok', rfl, hnext⟩ | ⟨e, c₂, d₂, herror, herror', hnext⟩ :=
      agree_within hR hrun c₁ d₁ hplanned.connection
    · rw [hok, hok']
      exact .ok rfl (hplanned.on (hnext.logStatement _ _))
    · rw [herror, herror']
      exact .error e (hplanned.on hnext)
  · simp only [Command.executeNonQuery, herror, herror']
    exact .error e hplanned

/-- Commands that are abreast get readers that are abreast. -/
theorem Abreast.executeReader (hR : ValuesUnseen R) (h : Abreast R (cmd, c) (cmd', d)) :
    Agreeing (Abreast R) Eq (cmd.executeReader c) (cmd'.executeReader d) := by
  have htext : cmd.text = cmd'.text := h.text
  have hquery : cmd.isQuery = cmd'.isQuery := by rw [isQuery, htext, isQuery]
  -- Both commands are queries or neither is, since they have the same text.
  rw [Command.executeReader, Command.executeReader, ← hquery]
  split
  · obtain ⟨plan, _, ⟨cmd₁, c₁⟩, ⟨cmd₁', d₁⟩, hok, hok', rfl, hplanned⟩ |
      ⟨e, ⟨cmd₁, c₁⟩, ⟨cmd₁', d₁⟩, herror, herror', hplanned⟩ := h.prepare
    · simp only [hok, hok']
      have hopen := agree_openCursor hR plan cmd₁.parameters cmd₁'.parameters
      obtain ⟨r, _, c₂, d₂, hok, hok', rfl, hnext⟩ | ⟨e, c₂, d₂, herror, herror', hnext⟩ :=
        agree_opening hR hopen c₁ d₁ hplanned.connection
      · rw [hok, hok']
        exact .ok rfl (hplanned.on hnext)
      · rw [herror, herror']
        exact .error e (hplanned.on hnext)
    · simp only [herror, herror']
      exact .error e hplanned
  · obtain ⟨n, _, ⟨cmd₁, c₁⟩, ⟨cmd₁', d₁⟩, hok, hok', rfl, hnext⟩ |
      ⟨e, ⟨cmd₁, c₁⟩, ⟨cmd₁', d₁⟩, herror, herror', hnext⟩ := h.executeNonQuery hR
    · simp only [hok, hok']
      exact .ok rfl hnext
    · simp only [herror, herror']
      exact .error e hnext

/-- Commands that are abreast stay so after an execution for a single value. -/
theorem Abreast.executeScalar (hR : ValuesUnseen R) (h : Abreast R (cmd, c) (cmd', d)) :
    Abreast R (cmd.executeScalar c).2 (cmd'.executeScalar d).2 := by
  obtain ⟨r, _, ⟨cmd₁, c₁⟩, ⟨cmd₁', d₁⟩, hok, hok', rfl, hnext⟩ |
    ⟨e, ⟨cmd₁, c₁⟩, ⟨cmd₁', d₁⟩, herror, herror', hnext⟩ := h.executeReader hR
  · simp only [Command.executeScalar, hok, hok']
    exact hnext.on ((Reader.abreast_of_matched hnext.connection r).firstValue hR)
  · simp only [Command.executeScalar, herror, herror']
    exact hnext

/-- Commands that are abreast stay so after their readers have been used. -/
theorem Abreast.reader (hR : ValuesUnseen R) (h : Abreast R (cmd, c) (cmd', d))
    (requests : List ReaderRequest) :
    Abreast R (cmd.answer c (.reader requests)).2 (cmd'.answer d (.reader requests)).2 := by
  obtain ⟨r, _, ⟨cmd₁, c₁⟩, ⟨cmd₁', d₁⟩, hok, hok', rfl, hnext⟩ |
    ⟨e, ⟨cmd₁, c₁⟩, ⟨cmd₁', d₁⟩, herror, herror', hnext⟩ := h.executeReader hR
  · simp only [Command.answer, hok, hok']
    have hreaders := (Reader.abreast_of_matched hnext.connection r).answerAll hR requests
    exact hnext.on (hreaders.dispose hR)
  · simp only [Command.answer, herror, herror']
    exact hnext

end Command

/-! ## Operations -/

namespace CommandOperation

/-- What the operation makes of the parameters, if it works on them. -/
def edit? : CommandOperation → Option (Parameters → Parameters)
  | .request (.withParameter name value) => some fun ps => ps.add (.named name value)
  | .request (.withValue value) => some fun ps => ps.add (.positional value)
  | .request (.edit work) => some fun ps => (ps.answer work).2
  | .request _ => none
  | .editParameters edit => some edit

end CommandOperation

/-- Two sequences of operations, on commands with the given parameters, are the same but for how they edit
the parameters: after each edit the parameters have the same names and types. -/
inductive SameRequests : Parameters → Parameters → List CommandOperation → List CommandOperation → Prop
  | nil {ps qs : Parameters} : SameRequests ps qs [] []
  | same {ps qs : Parameters} {rest rest' : List CommandOperation} (operation : CommandOperation)
    (h : operation.edit? = none) (hrest : SameRequests ps qs rest rest') :
    SameRequests ps qs (operation :: rest) (operation :: rest')
  | edit {ps qs : Parameters} {rest rest' : List CommandOperation} {operation operation' : CommandOperation}
    {edit edit' : Parameters → Parameters} (h : operation.edit? = some edit)
    (h' : operation'.edit? = some edit') (hshape : (edit ps).SameShape (edit' qs))
    (hrest : SameRequests (edit ps) (edit' qs) rest rest') :
    SameRequests ps qs (operation :: rest) (operation' :: rest')

namespace Command

variable {cmd cmd' : Command} {c d : Connection σ}

/-- An operation that works on the parameters drops the plan and does nothing else. -/
theorem perform_of_edit? {operation : CommandOperation} {edit : Parameters → Parameters}
    (h : operation.edit? = some edit) (cmd : Command) (c : Connection σ) :
    (cmd.perform c operation).1 = cmd.setParameters (edit cmd.parameters) ∧
      (cmd.perform c operation).2.executor = c.executor ∧
      (cmd.perform c operation).2.options = c.options := by
  cases operation with
  | editParameters edit =>
    cases h
    exact ⟨rfl, rfl, rfl⟩
  | request request =>
    cases request with
    | withParameter name value =>
      cases h
      exact ⟨rfl, rfl, rfl⟩
    | withValue value =>
      cases h
      exact ⟨rfl, rfl, rfl⟩
    | edit request =>
      cases h
      exact ⟨rfl, (cmd.parameters.answer request).1.kept_log c⟩
    | _ => cases h

/-- Any other operation keeps the parameters. -/
theorem parameters_perform {operation : CommandOperation} (h : operation.edit? = none) (cmd : Command)
    (c : Connection σ) : (cmd.perform c operation).1.parameters = cmd.parameters := by
  cases operation with
  | editParameters edit => cases h
  | request request =>
    cases request with
    | withParameter | withValue | edit => cases h
    | text | isQuery | parameters => rfl
    | setText text =>
      simp only [perform, Command.answer, setText]
      cases checkText text <;> rfl
    | prepare => exact parameters_prepare cmd c
    | nonQuery =>
      show (cmd.executeNonQuery c).2.1.parameters = _
      rw [command_executeNonQuery, parameters_prepare]
    | scalar =>
      show (cmd.executeScalar c).2.1.parameters = _
      rw [command_executeScalar, parameters_prepare]
    | reader requests =>
      show (cmd.answer c (.reader requests)).2.1.parameters = _
      rw [command_reader, parameters_prepare]

/-- Commands stay abreast after edits that lead to the same shape. -/
theorem Abreast.performEdit {operation operation' : CommandOperation} {edit edit' : Parameters → Parameters}
    (h : Abreast R (cmd, c) (cmd', d)) (hedit : operation.edit? = some edit)
    (hedit' : operation'.edit? = some edit')
    (hshape : (edit cmd.parameters).SameShape (edit' cmd'.parameters)) :
    Abreast R (cmd.perform c operation) (cmd'.perform d operation') := by
  obtain ⟨hcmd, hexecutor, hoptions⟩ := perform_of_edit? hedit cmd c
  obtain ⟨hcmd', hexecutor', hoptions'⟩ := perform_of_edit? hedit' cmd' d
  obtain ⟨htext, -, -, hcd⟩ := h
  constructor
  · rw [hcmd, hcmd']
    exact htext
  · rw [hcmd, hcmd']
    rfl
  · rw [hcmd, hcmd']
    exact hshape
  · constructor
    · rw [hexecutor, hexecutor']
      exact hcd.executor
    · rw [hoptions, hoptions']
      exact hcd.options

/-- Commands stay abreast after the same operation. -/
theorem Abreast.perform (hR : ValuesUnseen R) (h : Abreast R (cmd, c) (cmd', d))
    {operation : CommandOperation} (hedit : operation.edit? = none) :
    Abreast R (cmd.perform c operation) (cmd'.perform d operation) := by
  cases operation with
  | editParameters edit => cases hedit
  | request request =>
    cases request with
    | withParameter | withValue | edit => cases hedit
    | text | isQuery | parameters => exact h
    | setText text =>
      simp only [Command.perform, Command.answer, setText]
      cases checkText text with
      | error e => exact h
      | ok => exact ⟨rfl, rfl, h.parameters, h.connection⟩
    | prepare => exact h.prepare.states
    | nonQuery => exact (h.executeNonQuery hR).states
    | scalar => exact h.executeScalar hR
    | reader requests => exact h.reader hR requests

/-- The same requests keep commands abreast. -/
theorem Abreast.performAll (hR : ValuesUnseen R) (h : Abreast R (cmd, c) (cmd', d)) {ps qs : Parameters}
    {operations operations' : List CommandOperation} (hrequests : SameRequests ps qs operations operations')
    (hps : cmd.parameters = ps) (hqs : cmd'.parameters = qs) :
    Abreast R (cmd.performAll c operations) (cmd'.performAll d operations') := by
  -- The parameters that the requests are about are those that the two commands have at the time.
  induction hrequests generalizing cmd cmd' c d with
  | nil => exact h
  | same operation hedit hrest ih =>
    exact ih (h.perform hR hedit) ((parameters_perform hedit cmd c).trans hps)
      ((parameters_perform hedit cmd' d).trans hqs)
  | edit hedit hedit' hshape hrest ih =>
    subst hps hqs
    have hps := congrArg Command.parameters (perform_of_edit? hedit cmd c).1
    have hqs := congrArg Command.parameters (perform_of_edit? hedit' cmd' d).1
    exact ih (h.performEdit hedit hedit' hshape) hps hqs

/-- What the executor is asked for does not depend on the values of parameters. A command whose parameters
get other values of the same types, at the start and whenever they are edited, makes the executor record the
same calls but for the values that are bound, also where operations fail. -/
theorem erasedCalls_performAll {cmd : Command} {qs : Parameters} (hshape : cmd.parameters.SameShape qs)
    {operations operations' : List CommandOperation}
    (hrequests : SameRequests cmd.parameters qs operations operations') (c : Connection Scripted) :
    (cmd.performAll c operations).2.executor.calls.map Call.eraseValues
      = (({ cmd with parameters := qs } : Command).performAll c operations').2.executor.calls.map
          Call.eraseValues := by
  have hstart : Abreast SameButValues (cmd, c) ({ cmd with parameters := qs }, c) :=
    ⟨rfl, rfl, hshape, .refl valuesUnseen c⟩
  have hend := (hstart.performAll valuesUnseen hrequests rfl rfl).connection.executor
  exact congrArg Scripted.calls hend

/-- An insertion fails, its number is set again, and it succeeds: once with null for a text, and once with
other numbers and a text that looks like SQL. -/
theorem erasedCalls_of_insertions :
    let parameters (n : Int32) (v : Value) : Parameters :=
      ⟨[.named "@n" (.int4 n), (Parameter.named "s" v).withType (.scalar .text)]⟩
    let cmd : Command := { text := "insert into t values (@n, @s)", parameters := parameters 1 .null }
    let qs := parameters 7 (.text "'); drop table t --")
    let operations (n : Int32) : List CommandOperation :=
      [.request .nonQuery, .request (.edit (.set "N" (.int4 n))), .request .prepare, .request .nonQuery]
    let c : Connection Scripted := { executor := { failures := [⟨.execute, -4, "no context"⟩] } }
    let planned := "insert into t values ($1, $2)"
    cmd.parameters.SameShape qs ∧ SameRequests cmd.parameters qs (operations 2) (operations 0) ∧
      (cmd.performAll c (operations 2)).2.executor.calls.map Call.eraseValues
        = [.ready, .prepare planned [23, 25], .executePrepared planned [], .finish,
          .ready, .prepare planned [23, 25], .executePrepared planned [], .finish] ∧
      (cmd.performAll c (operations 2)).2.executor.calls.map Call.eraseValues
        = (({ cmd with parameters := qs } : Command).performAll c (operations 0)).2.executor.calls.map
            Call.eraseValues := by
  intro parameters cmd qs operations c planned
  have hshape : ∀ (m n : Int32) (v w : Value), (parameters m v).SameShape (parameters n w) :=
    fun _ _ _ _ => .cons ⟨rfl, rfl⟩ (.cons ⟨rfl, rfl⟩ .nil)
  have hrequests : SameRequests cmd.parameters qs (operations 2) (operations 0) :=
    .same _ rfl (.edit rfl rfl (hshape 2 0 _ _) (.same _ rfl (.same _ rfl .nil)))
  have hcalls : (cmd.performAll c (operations 2)).2.executor.calls.map Call.eraseValues
      = [.ready, .prepare planned [23, 25], .executePrepared planned [], .finish,
        .ready, .prepare planned [23, 25], .executePrepared planned [], .finish] := by
    cbv
  exact ⟨hshape 1 7 _ _, hrequests, hcalls, erasedCalls_performAll (hshape 1 7 _ _) hrequests c⟩

end Command

end InProcessSql
