/-!
# Fallible steps on a state

A `Step` works on a state and answers a result or an error together with the state it leaves. An error
keeps the state as the failing step left it: what had an effect stays done.
-/

namespace InProcessSql

/-- A step on a state `S` that answers an `α` or an error `ε`. -/
def Step (S ε α : Type) : Type := S → Except ε α × S

namespace Step

variable {S T ε α β : Type}

def ret (a : α) : Step S ε α := fun s => (.ok a, s)

def fail (e : ε) : Step S ε α := fun s => (.error e, s)

/-- The step that goes on with the result of the first, unless that fails. -/
def andThen (x : Step S ε α) (f : α → Step S ε β) : Step S ε β := fun s =>
  match x s with
  | (.ok a, s) => f a s
  | (.error e, s) => (.error e, s)

instance : Monad (Step S ε) where
  pure := ret
  bind := andThen

/-- The step that answers what is known already. -/
def ofExcept (r : Except ε α) : Step S ε α := fun s => (r, s)

/-- The step that cannot fail. -/
def total (f : S → α × S) : Step S ε α := fun s =>
  let r := f s
  (.ok r.1, r.2)

/-- The step that only changes the state. -/
def update (f : S → S) : Step S ε Unit := fun s => (.ok (), f s)

@[simp] theorem pure_apply (a : α) (s : S) : (pure a : Step S ε α) s = (.ok a, s) := rfl

@[simp] theorem ret_apply (a : α) (s : S) : (ret a : Step S ε α) s = (.ok a, s) := rfl

@[simp] theorem fail_apply (e : ε) (s : S) : (fail e : Step S ε α) s = (.error e, s) := rfl

@[simp] theorem ofExcept_apply (r : Except ε α) (s : S) : (ofExcept r : Step S ε α) s = (r, s) := rfl

@[simp] theorem total_apply (f : S → α × S) (s : S) :
    (total f : Step S ε α) s = (.ok (f s).1, (f s).2) := rfl

@[simp] theorem update_apply (f : S → S) (s : S) : (update f : Step S ε Unit) s = (.ok (), f s) := rfl

theorem bind_apply (x : Step S ε α) (f : α → Step S ε β) (s : S) :
    (x >>= f) s = match x s with
      | (.ok a, s) => f a s
      | (.error e, s) => (.error e, s) := rfl

/-- A step goes on from what the one before it has left. -/
theorem bind_of_ok {x : Step S ε α} {f : α → Step S ε β} {s t : S} {a : α} (h : x s = (.ok a, t)) :
    (x >>= f) s = f a t := by
  rw [bind_apply, h]

/-- Behind a step that fails nothing more is done. -/
theorem bind_of_error {x : Step S ε α} {f : α → Step S ε β} {s t : S} {e : ε}
    (h : x s = (.error e, t)) : (x >>= f) s = (.error e, t) := by
  rw [bind_apply, h]

end Step

end InProcessSql
