import InProcessSql.Proofs.AgreeingRuns
import InProcessSql.Proofs.Executor.Answers

/-!
# The scripted executor without values

The scripted executor looks at values where it reads a datum, writes a row, and records what is bound. All
else is blind to them, so that states which are the same without their values stay so:
`Scripted.valuesUnseen`. The calls that are recorded then differ in the values that are bound at most.
-/

namespace InProcessSql

/-- The call without the values that are bound. -/
def Call.eraseValues : Call → Call
  | .executePrepared sql _ => .executePrepared sql []
  | .openCursor sql _ => .openCursor sql []
  | call => call

namespace Scripted

/-- The state without its values. -/
def eraseValues (s : Scripted) : Scripted :=
  { s with calls := s.calls.map Call.eraseValues, datums := [] }

/-- The states are the same without their values. -/
def SameButValues (s t : Scripted) : Prop := s.eraseValues = t.eraseValues

/-- Calls that differ in their values only may be recorded. -/
theorem SameButValues.record {s t : Scripted} (h : SameButValues s t) {call call' : Call}
    (hcall : call.eraseValues = call'.eraseValues) : SameButValues (s.record call) (t.record call') := by
  have hrecord : ∀ (call : Call) (s : Scripted),
      (s.record call).eraseValues = s.eraseValues.record call.eraseValues := by
    intro call s
    simp only [eraseValues, Scripted.record, List.map_append, List.map_singleton]
  rw [SameButValues, hrecord, hrecord, h, hcall]

/-- Taking values in changes nothing but values. -/
theorem TakesIn.sameButValues {s t : Scripted} (h : TakesIn s t) : SameButValues s t := by
  obtain ⟨more, rfl⟩ := h
  rfl

/-! ## Blind operations -/

section Blind

variable {α : Type} {f : Scripted → α × Scripted}

/-- The operation goes the same way without values. -/
def Blind (f : Scripted → α × Scripted) : Prop :=
  ∀ s, f s.eraseValues = ((f s).1, (f s).2.eraseValues)

/-- A blind operation does the same to states that are the same without their values. -/
theorem Blind.same (hf : Blind f) {s t : Scripted} (h : SameButValues s t) :
    (f s).1 = (f t).1 ∧ SameButValues (f s).2 (f t).2 := by
  have heq := hf s
  rw [h, hf t] at heq
  exact ⟨(congrArg Prod.fst heq).symm, (congrArg Prod.snd heq).symm⟩

/-- Blind steps that do not fail agree with themselves. -/
theorem Blind.agree_total (hf : Blind f) :
    Step.Agree (ε := Error) SameButValues Eq (Step.total f) (Step.total f) :=
  Step.agree_total fun _ _ h => hf.same h

/-- Blind steps agree with themselves. -/
theorem Blind.agree {x : Step Scripted Error α} (hx : Blind x) : Step.Agree SameButValues Eq x x := by
  intro s t hst
  obtain ⟨houtcome, hstates⟩ := hx.same hst
  exact agreeing_of_eq houtcome hstates

/-- Failures do not look at values. -/
theorem blind_checkFailure (operation : Operation) : Blind (checkFailure operation) := by
  intro s
  simp only [checkFailure, eraseValues]
  rcases takeFailure operation s.failures with ⟨_ | f, rest⟩
  · rfl
  · rfl

theorem blind_takeAffected : Blind takeAffected := by
  rintro ⟨isReady, results, affected, failures, calls, datums, cursor, opened⟩
  cases affected with
  | nil => rfl
  | cons n rest => rfl

theorem blind_takeResult : Blind takeResult := fun _ => rfl

/-- Moving a cursor does not look at values of parameters. -/
theorem blind_moveCursor (cursor : Cursor) : Blind (moveCursor cursor) := by
  rintro ⟨isReady, results, affected, failures, calls, datums, _ | c, opened⟩
  · rfl
  · simp only [moveCursor, eraseValues]
    split
    · rfl
    · rfl

/-- Operations that record calls with the same text, and then go on alike, agree. -/
theorem agree_guarded {call call' : Scripted → Call}
    (hcall : ∀ s t, (call s).eraseValues = (call' t).eraseValues) (operation : Operation)
    {next : Step Scripted Error α} (hnext : Step.Agree SameButValues Eq next next) :
    Step.Agree SameButValues Eq (guarded call operation next) (guarded call' operation next) :=
  (Step.agree_update fun s t h => h.record (hcall s t)).bind fun _ _ _ =>
    (blind_checkFailure operation).agree.bind fun _ _ _ => hnext

end Blind

/-! ## The operations -/

/-- Taking the current row changes nothing but values. -/
theorem sameButValues_currentRow (places : List Place) (s : Scripted) :
    SameButValues (s.record .currentRow) (currentRow places s).2 := by
  simp only [currentRow]
  split
  · exact (takesIn_fillPlaces _ places _).sameButValues
  · rfl

theorem SameButValues.isReady_eq {s t : Scripted} (h : SameButValues s t) : s.isReady = t.isReady := by
  have herased : s.eraseValues.isReady = t.eraseValues.isReady := congrArg Scripted.isReady h
  exact herased

theorem SameButValues.cursor_eq {s t : Scripted} (h : SameButValues s t) : s.cursor = t.cursor := by
  have herased : s.eraseValues.cursor = t.eraseValues.cursor := congrArg Scripted.cursor h
  exact herased

/-- Whatever values and places the operations are handed, they go the same way, and the calls that they
record are the same without the values. -/
theorem valuesUnseen : ValuesUnseen SameButValues where
  equivalence := ⟨fun _ => rfl, Eq.symm, Eq.trans⟩
  ready s t h := ⟨h.isReady_eq, h.record rfl⟩
  prepare sql oids := agree_guarded (fun _ _ => rfl) .prepare (Step.agree_pure rfl)
  execute sql readOnly countLimit :=
    agree_guarded (fun _ _ => rfl) .execute blind_takeAffected.agree_total
  executePrepared statement places places' _ _ := by
    -- The recorded calls differ in the values that are erased, and in nothing else.
    refine agree_guarded ?_ .execute blind_takeAffected.agree_total
    exact fun _ _ => rfl
  openCursor statement places places' := by
    refine agree_guarded ?_ .openCursor blind_takeResult.agree_total
    exact fun _ _ => rfl
  fetch cursor := agree_guarded (fun _ _ => rfl) .fetch (blind_moveCursor cursor).agree
  dimensions s t h := by
    refine ⟨?_, h.record rfl⟩
    show (dimensions s).1 = (dimensions t).1
    rw [dimensions, dimensions, h.cursor_eq]
  columns count := by
    show Step.Agree SameButValues Eq (columns count) (columns count)
    refine (Step.agree_update fun s t h => h.record rfl).bind fun _ _ _ => ?_
    refine Step.agree_total fun s t h => ⟨?_, h⟩
    rw [h.cursor_eq]
  currentRow places places' s t h := by
    have hrecorded : SameButValues (s.record .currentRow) (t.record .currentRow) := h.record rfl
    exact ((sameButValues_currentRow places s).symm.trans hrecorded).trans
      (sameButValues_currentRow places' t)
  finish s t h := by
    have hrecorded : SameButValues (s.record .finish) (t.record .finish) := h.record rfl
    exact congrArg (fun u : Scripted => { u with cursor := none }) hrecorded
  readDatum datum oid s := by
    show SameButValues s (readDatum datum oid s).2
    rw [readDatum]
    split <;> rfl
  writeDatum v oid s := ⟨_, _, rfl, rfl⟩

end Scripted

end InProcessSql
