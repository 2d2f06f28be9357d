import InProcessSql.Proofs.Executor.Datums

/-!
# What the scripted executor answers

An operation fails exactly if a failure of it waits, which it uses up. Otherwise it goes on.
-/

namespace InProcessSql.Scripted

/-! ## Failures that wait -/

/-- The failure of an operation that waits longest. -/
def waiting? (operation : Operation) (s : Scripted) : Option Failure :=
  s.failures.find? fun f => f.operation = operation

/-- The failure that is taken is the one that has waited longest. -/
theorem fst_takeFailure (operation : Operation) (fs : List Failure) :
    (takeFailure operation fs).1 = fs.find? fun f => f.operation = operation := by
  induction fs with
  | nil => rfl
  | cons f fs ih =>
    rw [takeFailure, List.find?_cons]
    by_cases hf : f.operation = operation
    · simp [hf]
    · simp [hf, ih]

/-- Only that failure is used up. -/
theorem snd_takeFailure (operation : Operation) (fs : List Failure) :
    (takeFailure operation fs).2 = fs.eraseP fun f => f.operation = operation := by
  induction fs with
  | nil => rfl
  | cons f fs ih =>
    rw [takeFailure]
    by_cases hf : f.operation = operation
    · simp [hf]
    · simp [hf, ih]

/-- Without a failure that waits, nothing happens. -/
theorem checkFailure_of_none {operation : Operation} {s : Scripted} (h : s.waiting? operation = none) :
    checkFailure operation s = (.ok (), s) := by
  rw [waiting?, ← fst_takeFailure] at h
  rw [checkFailure]
  rcases htake : takeFailure operation s.failures with ⟨_ | f, rest⟩
  · rfl
  · rw [htake] at h
    cases h

/-- The executor without the failure of an operation that waits longest. -/
def withoutFirst (operation : Operation) (s : Scripted) : Scripted :=
  { s with failures := s.failures.eraseP fun f => f.operation = operation }

/-- A failure that waits is used up. -/
theorem checkFailure_of_some {operation : Operation} {s : Scripted} {f : Failure}
    (h : s.waiting? operation = some f) : checkFailure operation s = (.error f.error, s.withoutFirst operation) := by
  rw [waiting?, ← fst_takeFailure] at h
  rw [checkFailure, withoutFirst, ← snd_takeFailure]
  rcases htake : takeFailure operation s.failures with ⟨_ | g, rest⟩
  · rw [htake] at h
    cases h
  · rw [htake] at h
    cases h
    rfl

/-! ## Operations that may fail -/

variable {α : Type}

/-- An operation that records its call and, unless a failure of it waits, goes on. -/
def guarded (call : Scripted → Call) (operation : Operation) (next : Step Scripted Error α) :
    Step Scripted Error α := do
  Step.update fun s => s.record (call s)
  checkFailure operation
  next

/-- Without a failure the operation goes on. -/
theorem guarded_of_none {operation : Operation} {s : Scripted} (h : s.waiting? operation = none)
    (call : Scripted → Call) (next : Step Scripted Error α) :
    guarded call operation next s = next (s.record (call s)) := by
  have hcheck : checkFailure operation (s.record (call s)) = _ := checkFailure_of_none h
  simp only [guarded, Step.bind_apply, Step.update_apply, hcheck]

/-- A failure that waits is used up, and the operation does not go on. -/
theorem guarded_of_some {operation : Operation} {s : Scripted} {f : Failure}
    (h : s.waiting? operation = some f) (call : Scripted → Call) (next : Step Scripted Error α) :
    guarded call operation next s = (.error f.error, (s.record (call s)).withoutFirst operation) := by
  have hcheck : checkFailure operation (s.record (call s)) = _ := checkFailure_of_some h
  simp only [guarded, Step.bind_apply, Step.update_apply, hcheck]

/-- An operation that succeeds has gone on. -/
theorem next_of_guarded {call : Scripted → Call} {operation : Operation} {next : Step Scripted Error α}
    {s t : Scripted} {a : α} (h : guarded call operation next s = (.ok a, t)) :
    next (s.record (call s)) = (.ok a, t) := by
  cases hwaiting : s.waiting? operation with
  | none => rwa [guarded_of_none hwaiting] at h
  | some f =>
    rw [guarded_of_some hwaiting] at h
    cases h

/-- What neither records nor failures show, such an operation changes only in what it goes on with. -/
theorem watch_guarded {β : Type} {watch : Scripted → β} (hrecord : ∀ call s, watch (record call s) = watch s)
    (hfailure : ∀ operation s, watch (withoutFirst operation s) = watch s) {next : Step Scripted Error α}
    (hnext : ∀ s, watch (next s).2 = watch s) (call : Scripted → Call) (operation : Operation) (s : Scripted) :
    watch (guarded call operation next s).2 = watch s := by
  cases hwaiting : s.waiting? operation with
  | none =>
    rw [guarded_of_none hwaiting, hnext]
    exact hrecord _ s
  | some f =>
    rw [guarded_of_some hwaiting]
    exact (hfailure operation _).trans (hrecord _ s)

theorem prepare_eq (sql : String) (oids : List Oid) :
    prepare sql oids = guarded (fun _ => .prepare sql oids) .prepare (Step.ret ⟨sql⟩) := rfl

theorem execute_eq (sql : String) (readOnly : Bool) (countLimit : Int) :
    execute sql readOnly countLimit
      = guarded (fun _ => .execute sql readOnly countLimit) .execute (Step.total takeAffected) := rfl

theorem executePrepared_eq (statement : Statement) (places : List Place) :
    executePrepared statement places
      = guarded (fun s => .executePrepared statement.sql (places.map s.placeValue)) .execute
        (Step.total takeAffected) := rfl

theorem openCursor_eq (statement : Statement) (places : List Place) :
    openCursor statement places
      = guarded (fun s => .openCursor statement.sql (places.map s.placeValue)) .openCursor
        (Step.total takeResult) := rfl

theorem fetch_eq (cursor : Cursor) : fetch cursor = guarded (fun _ => .fetch) .fetch (moveCursor cursor) := rfl

/-- Preparing fails if a failure of it waits, and otherwise records its call and does nothing else. -/
theorem prepare_cases {sql : String} {oids : List Oid} {result : Except Error Statement} {s t : Scripted}
    (h : prepare sql oids s = (result, t)) :
    (∃ f, s.waiting? .prepare = some f ∧ result = .error f.error ∧
        t = (s.record (.prepare sql oids)).withoutFirst .prepare) ∨
      s.waiting? .prepare = none ∧ result = .ok ⟨sql⟩ ∧ t = s.record (.prepare sql oids) := by
  rw [prepare_eq] at h
  cases hwaiting : s.waiting? .prepare with
  | none =>
    rw [guarded_of_none hwaiting] at h
    cases h
    exact .inr ⟨rfl, rfl, rfl⟩
  | some f =>
    rw [guarded_of_some hwaiting] at h
    cases h
    exact .inl ⟨f, rfl, rfl, rfl⟩

end InProcessSql.Scripted
