import InProcessSql.Executor.Native
import InProcessSql.Proofs.Executor.Answers
import InProcessSql.Proofs.Executor.Recording

/-!
# Errors of executors

No operation of an executor answers an error of planning: `Scripted.neverPlans` says so of the scripted executor, and
`Native.neverPlans` of the native executor over any layer. `Step.FailsWith` is the condition on a single step, which
carries over from steps to what is put together from them.
-/

namespace InProcessSql

/-- Whether an error is one of planning. -/
def Error.isOfPlanning : Error → Bool
  | mixedParameterStyle => true
  | unsupportedType _ => true
  | _ => false

/-- The error is none of planning. -/
def Error.IsLater (e : Error) : Prop := e.isOfPlanning = false

/-! ## Errors of steps -/

namespace Step

variable {S ε α β : Type} {P : ε → Prop}

/-- Every error that the step answers satisfies the condition. -/
def FailsWith (P : ε → Prop) (x : Step S ε α) : Prop := ∀ ⦃s t e⦄, x s = (.error e, t) → P e

theorem failsWith_total (f : S → α × S) : FailsWith P (total f) := fun _ _ _ h => nomatch h

theorem failsWith_ret (a : α) : FailsWith P (ret a : Step S ε α) := fun _ _ _ h => nomatch h

theorem failsWith_update (f : S → S) : FailsWith P (update f) := fun _ _ _ h => nomatch h

theorem failsWith_fail {e : ε} (h : P e) : FailsWith P (fail e : Step S ε α) := by
  intro s t e' h'
  cases h'
  exact h

/-- Either way the errors are of the kind. -/
theorem failsWith_ite {p : Prop} [Decidable p] {x y : Step S ε α} (hx : FailsWith P x) (hy : FailsWith P y) :
    FailsWith P (if p then x else y) := by
  split_ifs
  · exact hx
  · exact hy

/-- Of two steps one after the other it is the one or the other that fails. -/
theorem FailsWith.bind {x : Step S ε α} {f : α → Step S ε β} (hx : FailsWith P x) (hf : ∀ a, FailsWith P (f a)) :
    FailsWith P (x >>= f) := by
  intro s t e h
  rw [bind_apply] at h
  rcases hstep : x s with ⟨e' | a, u⟩
  · rw [hstep] at h
    cases h
    exact hx hstep
  · rw [hstep] at h
    exact hf a h

end Step

open Step

/-! ## Errors of executors -/

/-- No operation of the executor answers an error of planning. -/
structure Executor.NeverPlans (σ : Type) [Executor σ] : Prop where
  prepare : ∀ (sql : String) (oids : List Oid), FailsWith Error.IsLater (Executor.prepare (σ := σ) sql oids)
  execute : ∀ (sql : String) (readOnly : Bool) (countLimit : Int),
    FailsWith Error.IsLater (Executor.execute (σ := σ) sql readOnly countLimit)
  executePrepared : ∀ (statement : Executor.Statement σ) (places : List (Executor.Place σ)) (readOnly : Bool)
    (countLimit : Int), FailsWith Error.IsLater (Executor.executePrepared statement places readOnly countLimit)
  openCursor : ∀ (statement : Executor.Statement σ) (places : List (Executor.Place σ)),
    FailsWith Error.IsLater (Executor.openCursor statement places)
  fetch : ∀ cursor : Executor.Cursor σ, FailsWith Error.IsLater (Executor.fetch cursor)
  columns : ∀ count : Nat, FailsWith Error.IsLater (Executor.columns (σ := σ) count)
  readDatum : ∀ (datum : Executor.Datum σ) (oid : Oid) (s : σ) (e : Error),
    (Executor.readDatum datum oid s).1.result oid = .error e → e.IsLater
  writeDatum : ∀ (v : Value) (oid : Oid), FailsWith Error.IsLater (Executor.writeDatum (σ := σ) v oid)

/-- A text that cannot be decoded is found out about later. -/
theorem TextFormat.isLater_of_decode {oid : Oid} {text : String} {e : Error} (h : decode oid text = .error e) :
    e.IsLater := by
  rw [decode] at h
  cases hread : read oid text <;> rw [hread] at h <;> cases h
  rfl

namespace Scripted

/-- Queued failures are errors of the executor, which come later than those of planning. -/
theorem failsWith_checkFailure (operation : Operation) : FailsWith Error.IsLater (checkFailure operation) := by
  intro s t e h
  cases hwaiting : s.waiting? operation with
  | none =>
    rw [checkFailure_of_none hwaiting] at h
    cases h
  | some f =>
    rw [checkFailure_of_some hwaiting] at h
    cases h
    rfl

/-- An operation fails with later errors only, if what it goes on with does. -/
theorem failsWith_guarded {α : Type} {next : Step Scripted Error α} (hnext : FailsWith Error.IsLater next)
    (call : Scripted → Call) (operation : Operation) :
    FailsWith Error.IsLater (guarded call operation next) :=
  .bind (failsWith_update _) fun _ => .bind (failsWith_checkFailure operation) fun _ => hnext

/-- A cursor that is not open is told later than the plan. -/
theorem failsWith_moveCursor (cursor : Cursor) : FailsWith Error.IsLater (moveCursor cursor) := by
  intro s t e h
  rw [moveCursor] at h
  split at h
  · split at h <;> cases h
    rfl
  · cases h
    rfl

/-- The scripted executor never fails with an error of planning. -/
theorem neverPlans : Executor.NeverPlans Scripted where
  prepare sql oids := failsWith_guarded (failsWith_ret _) _ .prepare
  execute sql readOnly countLimit := failsWith_guarded (failsWith_total _) _ .execute
  executePrepared statement places _ _ := failsWith_guarded (failsWith_total _) _ .execute
  openCursor statement places := failsWith_guarded (failsWith_total _) _ .openCursor
  fetch cursor := failsWith_guarded (failsWith_moveCursor cursor) _ .fetch
  columns count s t e h := absurd h (columns_ne_error count s t e)
  readDatum datum oid s e h := by
    have h : (readDatum datum oid s).1.result oid = .error e := h
    rw [readDatum] at h
    split at h
    · cases h
    · cases h
      rfl
  writeDatum v oid := failsWith_total _

end Scripted

namespace ByValue

/-- A word that holds no value of its type is found out about later. -/
theorem isLater_of_decode? {word : Word} {oid : Oid} {e : Error} (h : decode? word oid = some (.error e)) :
    e.IsLater := by
  have hrange : ∀ v, orOutOfRange oid v = .error e → e.IsLater := by
    rintro (_ | v) hv <;> cases hv
    rfl
  obtain ⟨type, -, htype⟩ := Option.bind_eq_some_iff.1 h
  cases type with
  | date | time | timestamp | timestamptz => exact hrange _ (Option.some.inj htype)
  | _ => simp [decodeScalar?] at htype

/-- An integer that does not fit a word of its type is found out about later. -/
theorem isLater_of_encode? {v : Value} {oid : Oid} {e : Error} (h : encode? v oid = some (.error e)) :
    e.IsLater := by
  have hunsigned : ∀ n, encodeScalar?.unsigned oid n = .error e → e.IsLater := by
    intro n hn
    rw [encodeScalar?.unsigned] at hn
    split_ifs at hn
    cases hn
    rfl
  obtain ⟨type, -, htype⟩ := Option.bind_eq_some_iff.1 h
  unfold encodeScalar? at htype
  split at htype
  all_goals first | exact hunsigned _ (Option.some.inj htype) | simp at htype

end ByValue

namespace Native

variable {σ α : Type}

/-- Steps on the layer fail as they do without the executor around it. -/
theorem failsWith_onLayer {x : Step σ Error α} (hx : FailsWith Error.IsLater x) :
    FailsWith Error.IsLater (onLayer x : Step (Native σ) Error α) := by
  intro s t e h
  have herror : (x s.layer).1 = .error e := congrArg Prod.fst h
  exact hx (Prod.ext herror rfl)

/-- A zero character in a text is told later than the plan. -/
theorem failsWith_withText {f : String → Step σ Error α} (hf : ∀ s, FailsWith Error.IsLater (f s)) (text : String) :
    FailsWith Error.IsLater (withText text f) := by
  rw [withText]
  split
  · exact failsWith_fail rfl
  · exact hf text

/-- A result code below zero is told later than the plan. -/
theorem isLater_of_affected {code : Int32} {operation : String} {e : Error}
    (h : ResultCode.affected code operation = .error e) : e.IsLater := by
  rw [ResultCode.affected, ResultCode.check] at h
  split_ifs at h <;> cases h
  rfl

/-- A pointer that is missing is told later than the plan. -/
theorem isLater_of_pointer {operation : String} {missing : Int32 → Error} {answer : Int32 × Option α} {e : Error}
    (h : pointer operation missing answer = .error e) (hmissing : ∀ code, (missing code).IsLater) : e.IsLater := by
  rw [pointer, ResultCode.check] at h
  split_ifs at h
  · cases h
    rfl
  · simp only at h
    split at h <;> cases h
    exact hmissing _

variable [NativeLayer σ]

/-- Preparing fails with later errors only. -/
theorem failsWith_prepare (sql : String) (oids : List Oid) :
    FailsWith Error.IsLater (prepare sql oids : Step σ Error (NativeLayer.Plan σ)) := by
  apply failsWith_withText
  intro sql
  apply failsWith_ite
  · exact failsWith_fail rfl
  · intro s t e h
    exact isLater_of_pointer (congrArg Prod.fst h) fun _ => rfl

/-- A datum that is not read is told later than the plan. -/
theorem isLater_of_readDatum {word : Word} {oid : Oid} {s : σ} {e : Error}
    (h : (readDatum word oid s).1.result oid = .error e) : e.IsLater := by
  unfold readDatum at h
  split at h
  · next value hvalue => exact ByValue.isLater_of_decode? (hvalue.trans (congrArg some h))
  · split at h
    · exact TextFormat.isLater_of_decode h
    · cases h
      rfl

/-- A value that is not written is told later than the plan. -/
theorem failsWith_writeDatum (v : Value) (oid : Oid) :
    FailsWith Error.IsLater (writeDatum v oid : Step σ Error Word) := by
  unfold writeDatum
  split
  · next word hword =>
    intro s t e h
    exact ByValue.isLater_of_encode? (hword.trans (congrArg some (congrArg Prod.fst h)))
  · exact failsWith_withText (fun text => failsWith_total _) _

/-- The native executor never fails with an error of planning, whatever the layer does. -/
theorem neverPlans : Executor.NeverPlans (Native σ) where
  prepare sql oids := failsWith_onLayer (failsWith_prepare sql oids)
  execute sql _ _ :=
    failsWith_onLayer (failsWith_withText (fun _ _ _ _ h => isLater_of_affected (congrArg Prod.fst h)) sql)
  executePrepared _ _ _ _ := failsWith_onLayer fun _ _ _ h => isLater_of_affected (congrArg Prod.fst h)
  openCursor _ _ := failsWith_onLayer fun _ _ _ h => isLater_of_pointer (congrArg Prod.fst h) fun _ => rfl
  fetch _ := failsWith_onLayer (failsWith_update _)
  columns _ := failsWith_onLayer (failsWith_total _)
  readDatum _ _ s _ h := isLater_of_readDatum (s := s.layer) h
  writeDatum v oid := failsWith_onLayer (failsWith_writeDatum v oid)

end Native

end InProcessSql
