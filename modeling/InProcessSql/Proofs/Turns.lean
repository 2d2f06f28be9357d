import InProcessSql.Proofs.FailingStages
import InProcessSql.Proofs.LaterReaders

/-!
# Turns of executions

An execution that fails leaves calls and values behind, and uses up the failure that it met. Nothing else is used up:
`Scripted.Spares` says that the executor holds the same for executions to come, once statements are accepted and no
failure of the operations in question waits. An execution that nothing stands in the way of depends on nothing but
that. `Scripted.Turn` puts the two together, and `Scripted.turn_of_opening` and `Scripted.turn_of_running` say so of
the two ways in which a plan is carried out.
-/

namespace InProcessSql

open Scripted

namespace Scripted

/-! ## What executions have before them -/

/-- What a state holds for executions to come: neither the calls made and the values taken in so far, nor the cursor
that is open. -/
def script (s : Scripted) : Scripted := { s.fresh with cursor := none }

/-- The state with nothing in the way of these operations: statements are accepted, and no failure of them waits. -/
def relieved (operations : List Operation) (s : Scripted) : Scripted :=
  { s with isReady := true, failures := s.failures.filter fun f => f.operation ∉ operations }

/-- The second state has as much before it as the first, once nothing is in the way of these operations. -/
def Spares (operations : List Operation) (s t : Scripted) : Prop :=
  t.script.relieved operations = s.script.relieved operations

variable {operations : List Operation} {s t u : Scripted}

/-- What is spared along the way is spared. -/
theorem Spares.trans (h : Spares operations s t) (h' : Spares operations t u) : Spares operations s u :=
  Eq.trans h' h

/-- Where the script stays, everything else is spared. -/
theorem spares_of_script_eq (h : t.script = s.script) : Spares operations s t := by
  rw [Spares, h]

/-- What is to come decides which failures wait. -/
theorem waiting?_eq_of_script_eq (h : t.script = s.script) (operation : Operation) :
    t.waiting? operation = s.waiting? operation := by
  have hfailures : t.script.failures = s.script.failures := by rw [h]
  exact congrArg (List.find? fun f => f.operation = operation) hfailures

/-- No failure of the operations waits. -/
theorem waiting?_relieved {operation : Operation} (h : operation ∈ operations) (s : Scripted) :
    (s.relieved operations).waiting? operation = none := by
  simp only [waiting?, relieved, List.find?_eq_none, List.mem_filter, decide_eq_true_eq]
  rintro f ⟨-, hf⟩ rfl
  exact hf h

/-- Using a failure of the operations up spares everything else. -/
theorem spares_withoutFirst {operation : Operation} {f : Failure} (hoperation : operation ∈ operations)
    (hwaiting : s.waiting? operation = some f) : Spares operations s (s.withoutFirst operation) := by
  obtain ⟨earlier, later, hfailures, -, rfl, hleft⟩ := exists_split_of_waiting? hwaiting
  have hsame : (s.withoutFirst f.operation).failures.filter (fun g => g.operation ∉ operations)
      = s.failures.filter fun g => g.operation ∉ operations := by
    rw [hleft, hfailures, List.filter_append, List.filter_append,
      List.filter_cons_of_neg (by simpa using hoperation)]
  have hrelieved : ∀ t : Scripted, t.script.relieved operations = { t.script with
      isReady := true, failures := t.failures.filter fun g => g.operation ∉ operations } := fun _ => rfl
  rw [Spares, hrelieved, hrelieved, hsame]
  rfl

/-- The operations have nothing in their way. -/
structure Free (operations : List Operation) (s : Scripted) : Prop where
  isReady : s.isReady = true
  waiting : ∀ operation ∈ operations, s.waiting? operation = none

/-- What is not in the way need not be taken out of it. -/
theorem Free.relieved_eq (h : Free operations s) : s.relieved operations = s := by
  have hfailures : s.failures.filter (fun f => f.operation ∉ operations) = s.failures := by
    rw [List.filter_eq_self]
    intro f hf
    refine decide_eq_true fun hmem => ?_
    have hothers := List.find?_eq_none.1 (h.waiting f.operation hmem) f hf
    exact hothers (decide_eq_true rfl)
  rw [relieved, hfailures, ← h.isReady]

/-- Without the failures of the operations none of them is hindered. -/
theorem free_relieved (operations : List Operation) (s : Scripted) : Free operations (s.relieved operations) :=
  ⟨rfl, fun _ h => waiting?_relieved h s⟩

/-! ## Turns -/

/-- Work on the executor that spares what is to come if it fails and, if nothing is in its way, has an outcome that
depends on what is to come alone. What is left of the executor is told in a view of it. -/
structure Turn {α : Type} (operations : List Operation) (view : Scripted → Scripted)
    (outcome : Scripted → α × Scripted) (s : Scripted) (result : Except Error α) (t : Scripted) : Prop where
  failed : ∀ e, result = .error e → Spares operations s t
  succeeded : Free operations s → result = .ok (outcome s.script).1 ∧ view t = (outcome s.script).2

section Turns

variable {α β : Type} {view : Scripted → Scripted} {outcome : Scripted → α × Scripted} {result : Except Error α}
  {plan : Plan} {bindings : List (Value × Oid)}

/-- What is made of the value does not matter for a turn. -/
theorem Turn.map (h : Turn operations view outcome s result t) (f : α → β) :
    Turn operations view (fun s => (f (outcome s).1, (outcome s).2)) s (result.map f) t := by
  refine ⟨fun e he => ?_, fun hfree => ?_⟩
  · cases result with
    | error e' => exact h.failed e' rfl
    | ok a => cases he
  · obtain ⟨hresult, hview⟩ := h.succeeded hfree
    rw [hresult]
    exact ⟨rfl, hview⟩

/-- Work may come after other work that leaves everything to come as it is. -/
theorem Turn.after (h : Turn operations view outcome t result u) (hscript : t.script = s.script)
    (hready : t.isReady = s.isReady) : Turn operations view outcome s result u := by
  refine ⟨fun e he => (spares_of_script_eq hscript).trans (h.failed e he), fun hfree => ?_⟩
  rw [← hscript]
  refine h.succeeded ⟨hready.trans hfree.isReady, fun operation hoperation => ?_⟩
  rw [waiting?_eq_of_script_eq hscript]
  exact hfree.waiting operation hoperation

/-- An operation uses one of its failures up, or goes on. -/
theorem turn_of_guarded {call : Scripted → Call} {operation : Operation} {next : Scripted → α × Scripted}
    (hoperation : operation ∈ operations) (h : guarded call operation (Step.total next) s = (result, t))
    (hnext : ∀ s, (next s).1 = (outcome s.script).1) (hview : ∀ s, view (next s).2 = (outcome s.script).2) :
    Turn operations view outcome s result t := by
  have hrecorded : (s.record (call s)).script = s.script := rfl
  cases hwaiting : s.waiting? operation with
  | none =>
    rw [guarded_of_none hwaiting] at h
    cases h
    refine ⟨fun e he => (nomatch he), fun _ => ⟨?_, ?_⟩⟩
    · rw [hnext, hrecorded]
    · rw [hview, hrecorded]
  | some f =>
    rw [guarded_of_some hwaiting] at h
    cases h
    refine ⟨fun _ _ => ?_, fun hfree => ?_⟩
    · have hwaiting : (s.record (call s)).waiting? operation = some f := hwaiting
      exact spares_withoutFirst hoperation hwaiting
    · cases hwaiting.symm.trans (hfree.waiting operation hoperation)

/-- Opening a cursor takes its turn: it fails with a queued failure, or takes the next result. -/
theorem turn_of_openCursor {statement : Statement} {places : List Place} {result : Except Error Cursor}
    (hoperation : .openCursor ∈ operations) (h : openCursor statement places s = (result, t)) :
    Turn operations fresh takeResult s result t := by
  rw [openCursor_eq] at h
  exact turn_of_guarded hoperation h (fun _ => rfl) fun _ => rfl

/-- Affected rows are counted by what is to come. -/
theorem takeAffected_script (s : Scripted) : (takeAffected s).1 = (takeAffected s.script).1 ∧
    (takeAffected s).2.script = (takeAffected s.script).2 := by
  have haffected : s.script.affected = s.affected := rfl
  rw [takeAffected, takeAffected, haffected]
  split <;> exact ⟨rfl, rfl⟩

/-- Executing a text takes its turn: it fails with a queued failure, or takes the next count. -/
theorem turn_of_execute {sql : String} {readOnly : Bool} {countLimit : Int} {result : Except Error Nat}
    (hoperation : .execute ∈ operations) (h : execute sql readOnly countLimit s = (result, t)) :
    Turn operations script takeAffected s result t := by
  rw [execute_eq] at h
  exact turn_of_guarded hoperation h (fun s => (takeAffected_script s).1) fun s => (takeAffected_script s).2

/-- Executing a prepared statement takes its turn as executing a text does. -/
theorem turn_of_executePrepared {statement : Statement} {places : List Place} {result : Except Error Nat}
    (hoperation : .execute ∈ operations) (h : executePrepared statement places s = (result, t)) :
    Turn operations script takeAffected s result t := by
  rw [executePrepared_eq] at h
  exact turn_of_guarded hoperation h (fun s => (takeAffected_script s).1) fun s => (takeAffected_script s).2

/-! ## Plans -/

/-- Work ends where preparing fails. -/
theorem turn_of_prepareFailed {e : Error} (hoperation : .prepare ∈ operations)
    (h : Executor.prepare plan.sql plan.oids s = (.error e, t)) : Turn operations view outcome s (.error e) t := by
  rcases prepare_cases h with ⟨f, hwaiting, -, rfl⟩ | ⟨-, hresult, -⟩
  · refine ⟨fun _ _ => ?_, fun hfree => ?_⟩
    · have hrecorded : (s.record (.prepare plan.sql plan.oids)).waiting? .prepare = some f := hwaiting
      exact spares_withoutFirst hoperation hrecorded
    · cases hwaiting.symm.trans (hfree.waiting _ hoperation)
  · cases hresult

/-- A statement that has been prepared, and the values that it has been given, leave everything to come as it is. -/
theorem kept_of_bound {handle : Executor.Statement Scripted} {places : List (Executor.Place Scripted)}
    (hprepare : Executor.prepare plan.sql plan.oids s = (.ok handle, t))
    (hbind : bindPlaces bindings t = (.ok places, u)) :
    handle = ⟨plan.sql⟩ ∧ u.script = s.script ∧ u.isReady = s.isReady := by
  obtain ⟨places', u', hbind', htaken, -⟩ := exists_bindPlaces bindings t
  cases hbind.symm.trans hbind'
  obtain ⟨more, rfl⟩ := htaken
  rcases prepare_cases hprepare with ⟨f, -, hresult, -⟩ | ⟨-, hresult, rfl⟩
  · cases hresult
  · cases hresult
    exact ⟨rfl, rfl, rfl⟩

/-- The reader of a plan over the next result. -/
def nextReader (plan : Plan) (s : Scripted) : Reader Scripted × Scripted :=
  (Reader.ofCursor ⟨⟨plan.sql⟩, plan.sql, plan.oids⟩ s.takeResult.1, s.takeResult.2)

theorem turn_of_bound {handle : Executor.Statement Scripted} {places : List (Executor.Place Scripted)}
    {v : Scripted} {result : Except Error (Executor.Cursor Scripted)}
    (hprepare : Executor.prepare plan.sql plan.oids s = (.ok handle, t))
    (hbind : bindPlaces bindings t = (.ok places, u)) (hopen : Executor.openCursor handle places u = (result, v)) :
    Turn [.prepare, .openCursor] fresh (nextReader plan) s
      (result.map (Reader.ofCursor ⟨handle, plan.sql, plan.oids⟩)) v := by
  obtain ⟨rfl, hscript, hready⟩ := kept_of_bound hprepare hbind
  have hopened : Turn [.prepare, .openCursor] fresh takeResult u result v := turn_of_openCursor (by decide) hopen
  exact (hopened.after hscript hready).map _

/-- Opening a cursor is a turn of preparing and opening. -/
theorem turn_of_opening {result : Except Error (Reader Scripted)} (h : Command.Opening plan bindings s result t) :
    Turn [.prepare, .openCursor] fresh (nextReader plan) s result t := by
  cases h with
  | prepareFailed hprepare => exact turn_of_prepareFailed (by decide) hprepare
  | bindFailed hprepare hbind => exact absurd hbind (bindPlaces_ne_error _ _ _ _)
  | openFailed hprepare hbind hopen => exact turn_of_bound hprepare hbind hopen
  | opened hprepare hbind hopen => exact turn_of_bound hprepare hbind hopen

/-- Running to completion is a turn of executing, after preparing if there are OIDs. -/
theorem turn_of_running {options : Options} {result : Except Error Nat}
    (h : Command.Running plan bindings options s result t) :
    Turn (if plan.oids = [] then [.execute] else [.prepare, .execute]) script takeAffected s result t := by
  cases h with
  | executed hoids hexecute =>
    rw [if_pos hoids]
    exact turn_of_execute (by decide) hexecute
  | prepareFailed hoids hprepare =>
    rw [if_neg hoids]
    exact turn_of_prepareFailed (by decide) hprepare
  | bindFailed hoids hprepare hbind => exact absurd hbind (bindPlaces_ne_error _ _ _ _)
  | executedPrepared hoids hprepare hbind hexecute =>
    rw [if_neg hoids]
    obtain ⟨-, hscript, hready⟩ := kept_of_bound hprepare hbind
    exact (turn_of_executePrepared (by decide) hexecute).after hscript hready

/-! ## Contexts -/

/-- If statements are not accepted, nothing is used up. -/
theorem turn_of_refused {e : Error} (hready : s.isReady = false) :
    Turn operations view outcome s (.error e) (s.record .ready) := by
  refine ⟨fun _ _ => rfl, fun hfree => ?_⟩
  cases hready.symm.trans hfree.isReady

/-- A context that is ended after a failure has nothing more come of it. -/
theorem Turn.ended {e : Error} (h : Turn operations view outcome s (.error e) t) :
    Turn operations view outcome s (.error e) t.finish :=
  ⟨fun e he => h.failed e he, fun hfree => nomatch (h.succeeded hfree).1⟩

/-- The end of a context forgets the cursor. -/
theorem Turn.finish (h : Turn operations script outcome s result t) :
    Turn operations fresh outcome s result t.finish :=
  ⟨fun e he => h.failed e he, fun hfree => h.succeeded hfree⟩

end Turns

end Scripted

end InProcessSql
