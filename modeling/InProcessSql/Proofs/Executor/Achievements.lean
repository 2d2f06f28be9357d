import InProcessSql.Proofs.Executor.Answers
import InProcessSql.Proofs.Executor.Recording

/-!
# What recorded calls have achieved

Whether a call of the scripted executor fails, and how many rows it affects, is settled by the failures and counts
that wait when it is made. So what a run has achieved can be told afterwards, from its calls and from what waited
before the first of them: `Outlook.replay` goes through the calls once more. `Performs` says that a state is reached
by calls that have achieved so much, with one lemma for each operation. Each cursor that has been opened takes the
oldest result, and nothing else takes one.
-/

namespace InProcessSql

/-- What a statement has come to. -/
inductive Achievement where
  | opened (sql : String)
  | executed (sql : String) (affected : Nat)
  deriving DecidableEq, Repr

/-- Whether a cursor has been opened. -/
def Achievement.isOpened : Achievement → Bool
  | .opened _ => true
  | .executed _ _ => false

namespace Scripted

/-! ## Going through calls once more -/

/-- What waits for the calls to come. -/
structure Outlook where
  failures : List Failure
  affected : List Nat
  deriving DecidableEq, Repr

def outlook (s : Scripted) : Outlook := ⟨s.failures, s.affected⟩

namespace Outlook

/-- Uses up a failure of the operation, or else achieves something and goes on. -/
def attempt (operation : Operation) (achieved : List Achievement) (next : Outlook → Outlook) (p : Outlook) :
    List Achievement × Outlook :=
  match takeFailure operation p.failures with
  | (some _, rest) => ([], { p with failures := rest })
  | (none, _) => (achieved, next p)

/-- Uses up the next affected-row count. -/
def affect (p : Outlook) : Outlook := { p with affected := p.affected.tail }

/-- What a call achieves, and what waits after it. -/
def call (p : Outlook) : Call → List Achievement × Outlook
  | .prepare _ _ => p.attempt .prepare [] id
  | .execute sql _ _ => p.attempt .execute [.executed sql (p.affected.headD 0)] affect
  | .executePrepared sql _ => p.attempt .execute [.executed sql (p.affected.headD 0)] affect
  | .openCursor sql _ => p.attempt .openCursor [.opened sql] id
  | .fetch => p.attempt .fetch [] id
  | .ready => ([], p)
  | .dimensions => ([], p)
  | .columns => ([], p)
  | .currentRow => ([], p)
  | .finish => ([], p)

/-- What calls achieve one after the other, and what waits after them. -/
def replay (p : Outlook) : List Call → List Achievement × Outlook
  | [] => ([], p)
  | call :: rest =>
    let (first, p) := p.call call
    let (more, p) := replay p rest
    (first ++ more, p)

/-- Calls are gone through one after the other, each with what waits after those before it. -/
theorem replay_append (p : Outlook) (earlier later : List Call) :
    p.replay (earlier ++ later) =
      ((p.replay earlier).1 ++ ((p.replay earlier).2.replay later).1, ((p.replay earlier).2.replay later).2) := by
  induction earlier generalizing p with
  | nil => rfl
  | cons call rest ih => simp only [List.cons_append, replay, ih, List.append_assoc]

theorem replay_singleton (p : Outlook) (c : Call) : p.replay [c] = p.call c := by
  simp only [replay, List.append_nil]

end Outlook

/-- What has been achieved on the way from one state to another, by the calls that the second has recorded since the
first. -/
def achieved (s t : Scripted) : List Achievement := (s.outlook.replay (t.calls.drop s.calls.length)).1

/-! ## Calls that achieve -/

/-- The second state is reached from the first by calls that achieve so much, and each cursor that they open takes a
result. -/
structure Performs (calls : List Call) (achieved : List Achievement) (s t : Scripted) : Prop where
  records : Records calls s t
  replay_eq : s.outlook.replay calls = (achieved, t.outlook)
  results_eq : t.results = s.results.drop (achieved.countP Achievement.isOpened)

variable {calls : List Call} {achievements : List Achievement} {s t u : Scripted} {α : Type}

/-- The recorded calls tell what has been achieved. -/
theorem Performs.achieved_eq (h : Performs calls achievements s t) : achieved s t = achievements := by
  rw [achieved, h.records.calls_eq, List.drop_left, h.replay_eq]

/-- What calls achieve is achieved one after the other. -/
theorem Performs.trans {later : List Call} {more : List Achievement} (h : Performs calls achievements s t)
    (h' : Performs later more t u) : Performs (calls ++ later) (achievements ++ more) s u := by
  refine ⟨h.records.trans h'.records, ?_, ?_⟩
  · rw [Outlook.replay_append, h.replay_eq, h'.replay_eq]
  · rw [h'.results_eq, h.results_eq, List.drop_drop, List.countP_append]

theorem Performs.refl (s : Scripted) : Performs [] [] s s := ⟨.refl s, rfl, rfl⟩

/-- Taking values in achieves nothing. -/
theorem TakesIn.performs (h : TakesIn s t) : Performs [] [] s t := by
  obtain ⟨more, rfl⟩ := h
  exact ⟨⟨(List.append_nil s.calls).symm, rfl⟩, rfl, rfl⟩

/-- One call achieves what going through it once more says. -/
theorem performs_of_call {call : Call} (hrecords : Records [call] s t)
    (hcall : s.outlook.call call = (achievements, t.outlook))
    (hresults : t.results = s.results.drop (achievements.countP Achievement.isOpened)) :
    Performs [call] achievements s t :=
  ⟨hrecords, (Outlook.replay_singleton _ _).trans hcall, hresults⟩

/-- Going through a call once more leads to what it has led to: it has used a failure up, or has gone on. -/
theorem performs_guarded {x : Step Scripted Error α} {call : Scripted → Call} {operation : Operation}
    {next : Step Scripted Error α} (hx : x = guarded call operation next)
    (outcome : Except Error α → List Achievement) (herror : ∀ e, outcome (.error e) = []) {after : Outlook → Outlook}
    (hcall : s.outlook.call (call s) = s.outlook.attempt operation (outcome (next (s.record (call s))).1) after)
    (hnext : Records [] (s.record (call s)) (next (s.record (call s))).2)
    (hafter : (next (s.record (call s))).2.outlook = after s.outlook)
    (hresults : (next (s.record (call s))).2.results
      = s.results.drop ((outcome (next (s.record (call s))).1).countP Achievement.isOpened)) :
    Performs [call s] (outcome (x s).1) s (x s).2 := by
  have hrecorded : Records [call s] s (s.record (call s)) := records_record (call s) s
  have htaken : takeFailure operation s.outlook.failures
      = (s.waiting? operation, s.failures.eraseP fun f => f.operation = operation) :=
    Prod.ext (fst_takeFailure operation s.failures) (snd_takeFailure operation s.failures)
  rw [Outlook.attempt, htaken] at hcall
  rw [hx]
  cases hwaiting : s.waiting? operation with
  | none =>
    rw [hwaiting] at hcall
    rw [guarded_of_none hwaiting]
    refine performs_of_call (hrecorded.trans hnext) ?_ hresults
    rw [hcall, hafter]
  | some f =>
    rw [hwaiting] at hcall
    rw [guarded_of_some hwaiting, herror]
    exact performs_of_call ⟨hrecorded.calls_eq, hrecorded.isReady_eq⟩ hcall rfl

/-! ## The operations -/

/-- An execution takes the next count, or none. -/
theorem takeAffected_eq (s : Scripted) :
    takeAffected s = (s.affected.headD 0, { s with affected := s.affected.tail }) := by
  rcases s with ⟨isReady, results, affected, failures, calls, datums, cursor, opened⟩
  cases affected <;> rfl

def executedBy (sql : String) : Except Error Nat → List Achievement
  | .ok n => [.executed sql n]
  | .error _ => []

def openedBy (sql : String) : Except Error α → List Achievement
  | .ok _ => [.opened sql]
  | .error _ => []

/-- Asking for a context achieves nothing. -/
theorem performs_ready (s : Scripted) : Performs [.ready] [] s (s.record .ready) :=
  ⟨records_record .ready s, rfl, rfl⟩

/-- Ending a context achieves nothing. -/
theorem performs_finish (s : Scripted) : Performs [.finish] [] s s.finish := ⟨records_finish s, rfl, rfl⟩

/-- Asking how many rows and columns there are achieves nothing. -/
theorem performs_dimensions (s : Scripted) : Performs [.dimensions] [] s (dimensions s).2 :=
  ⟨records_dimensions s, rfl, rfl⟩

/-- Asking for the columns achieves nothing. -/
theorem performs_columns (count : Nat) (s : Scripted) : Performs [.columns] [] s (columns count s).2 :=
  ⟨records_columns count s, rfl, rfl⟩

/-- Taking the current row achieves nothing. -/
theorem performs_currentRow (places : List Place) (s : Scripted) :
    Performs [.currentRow] [] s (currentRow places s).2 := by
  have hrecorded : Performs [.currentRow] [] s (s.record .currentRow) := ⟨records_record _ s, rfl, rfl⟩
  rw [currentRow]
  split
  · exact hrecorded.trans (takesIn_fillPlaces _ places _).performs
  · exact hrecorded

/-- Reading a datum makes no call. -/
theorem performs_readDatum (d : Nat) (oid : Oid) (s : Scripted) : Performs [] [] s (readDatum d oid s).2 := by
  rw [readDatum]
  split <;> exact (TakesIn.refl s).performs

/-- Binding values makes no call. -/
theorem performs_bindPlaces (bindings : List (Value × Oid)) (s : Scripted) :
    Performs [] [] s (bindPlaces bindings s).2 := by
  obtain ⟨places, t, hbind, htaken, -⟩ := exists_bindPlaces bindings s
  rw [hbind]
  exact htaken.performs

/-- Preparing achieves nothing, whether or not it fails. -/
theorem performs_prepare (sql : String) (oids : List Oid) (s : Scripted) :
    Performs [.prepare sql oids] [] s (prepare sql oids s).2 :=
  performs_guarded (prepare_eq sql oids) (fun _ => []) (fun _ => rfl) rfl (.refl _) rfl rfl

/-- Fetching achieves nothing, and takes no result. -/
theorem performs_fetch (cursor : Cursor) (s : Scripted) : Performs [.fetch] [] s (fetch cursor s).2 := by
  refine performs_guarded (fetch_eq cursor) (fun _ => []) (fun _ => rfl) rfl (records_moveCursor cursor _) ?_ ?_ <;>
    rw [moveCursor]
  · split
    · split <;> rfl
    · rfl
  · split
    · split <;> rfl
    · rfl

/-- A cursor that is opened takes the oldest result; one that fails to open takes none. -/
theorem performs_openCursor (statement : Statement) (places : List Place) (s : Scripted) :
    Performs [.openCursor statement.sql (places.map s.placeValue)]
      (openedBy statement.sql (openCursor statement places s).1) s (openCursor statement places s).2 :=
  performs_guarded (openCursor_eq statement places) (openedBy statement.sql) (fun _ => rfl) rfl
    (records_takeResult _) rfl List.drop_one.symm

/-- An execution achieves what the next count says. -/
theorem performs_affecting {x : Step Scripted Error Nat} {call : Scripted → Call} {sql : String}
    (hx : x = guarded call .execute (Step.total takeAffected))
    (hcall : s.outlook.call (call s)
      = s.outlook.attempt .execute [.executed sql (s.affected.headD 0)] Outlook.affect) :
    Performs [call s] (executedBy sql (x s).1) s (x s).2 := by
  have htake : (Step.total takeAffected : Step Scripted Error Nat)
      = Step.total fun s => (s.affected.headD 0, { s with affected := s.affected.tail }) := by
    funext s
    rw [Step.total_apply, takeAffected_eq, Step.total_apply]
  rw [htake] at hx
  exact performs_guarded hx (executedBy sql) (fun _ => rfl) hcall
    ⟨(List.append_nil _).symm, rfl⟩ rfl rfl

/-- Executing a text achieves what its answer says. -/
theorem performs_execute (sql : String) (readOnly : Bool) (countLimit : Int) (s : Scripted) :
    Performs [.execute sql readOnly countLimit] (executedBy sql (execute sql readOnly countLimit s).1) s
      (execute sql readOnly countLimit s).2 :=
  performs_affecting (execute_eq sql readOnly countLimit) rfl

/-- Executing a prepared statement achieves what its answer says. -/
theorem performs_executePrepared (statement : Statement) (places : List Place) (s : Scripted) :
    Performs [.executePrepared statement.sql (places.map s.placeValue)]
      (executedBy statement.sql (executePrepared statement places s).1) s
      (executePrepared statement places s).2 :=
  performs_affecting (executePrepared_eq statement places) rfl

end Scripted

end InProcessSql
