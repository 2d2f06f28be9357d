import InProcessSql.Proofs.Executor.IssuedDatums

/-!
# Cursors side by side

Any number of cursors can be opened on one scripted executor, and their handles outlive them. `CursorHistory` tells from
requests and replies alone which cursor has been opened last, over which result, and how often it has been fetched
since. `Scripted.ServesOwnRows` says what the executor does with cursors after such a history, and
`Scripted.servesOwnRows_answerAll` that it does so after every run: only the cursor opened last is served, until its
context is ended, and it is served the rows of its own result, one after the other.
-/

namespace InProcessSql

open Scripted

/-! ## What requests and replies tell of cursors -/

/-- A cursor that has been opened. -/
structure OpenedCursor where
  cursor : Scripted.Cursor
  result : ResultSet
  /-- How often a fetch of it has succeeded. -/
  fetched : Nat := 0
  deriving Repr

/-- The row that the last fetch has led to. -/
def OpenedCursor.row? (o : OpenedCursor) : Option (List Value) :=
  if o.fetched = 0 then none else o.result.rows[o.fetched - 1]?

/-- The cursor after a fetch of some cursor has succeeded. -/
def OpenedCursor.fetch (o : OpenedCursor) (cursor : Scripted.Cursor) : OpenedCursor :=
  if o.cursor = cursor then { o with fetched := o.fetched + 1 } else o

/-- What has become of results and cursors. -/
structure CursorHistory where
  /-- The results that have been queued and not been taken by a cursor, the oldest first. -/
  waiting : List ResultSet := []
  /-- The cursor that has been opened last, unless a context has been ended since. -/
  latest : Option OpenedCursor := none
  deriving Repr

namespace CursorHistory

/-- The history with one more request and its reply. -/
def after (h : CursorHistory) : ScriptedRequest → ExecutorReply Scripted → CursorHistory
  | .instruct (.result rs), _ => { h with waiting := h.waiting ++ [rs] }
  -- A cursor takes the oldest result, and runs over an empty one if none waits.
  | .call (.openCursor _ _), .cursor cursor => ⟨h.waiting.tail, some ⟨cursor, h.waiting.headD {}, 0⟩⟩
  | .call (.fetch cursor), .done => { h with latest := h.latest.map fun o => o.fetch cursor }
  | .call .finish, _ => { h with latest := none }
  | _, _ => h

/-- The history with more requests and their replies. -/
def replay (h : CursorHistory) : List ScriptedRequest → List (ExecutorReply Scripted) → CursorHistory
  | request :: requests, reply :: replies => replay (h.after request reply) requests replies
  | _, _ => h

end CursorHistory

def ExecutorReply.cursor? : ExecutorReply Scripted → Option Scripted.Cursor
  | .cursor handle => some handle
  | _ => none

namespace Scripted

/-! ## What a request does to cursors -/

/-- A fetch uses a failure up, moves the open cursor, or is refused. -/
theorem fetch_cases (cursor : Cursor) (s : Scripted) :
    (∃ f, s.waiting? .fetch = some f ∧
        fetch cursor s = (.error f.error, (s.record .fetch).withoutFirst .fetch)) ∨
      s.waiting? .fetch = none ∧
        ((∃ c, s.cursor = some c ∧ c.id = cursor.id ∧
            fetch cursor s = (.ok (), { s.record .fetch with cursor := some c.advance })) ∨
          (∀ c, s.cursor = some c → c.id ≠ cursor.id) ∧
            fetch cursor s = (.error (.executor (-5) "cursor is not open"), s.record .fetch)) := by
  rw [fetch_eq]
  cases hwaiting : s.waiting? .fetch with
  | some f => exact .inl ⟨f, rfl, guarded_of_some hwaiting _ _⟩
  | none =>
    refine .inr ⟨rfl, ?_⟩
    have hrecorded : (s.record .fetch).cursor = s.cursor := rfl
    rw [guarded_of_none hwaiting, moveCursor, hrecorded]
    cases hcursor : s.cursor with
    | none =>
      refine .inr ⟨fun c hc => ?_, rfl⟩
      cases hc
    | some c =>
      by_cases hid : c.id = cursor.id
      · exact .inl ⟨c, rfl, hid, by simp only [if_pos hid]⟩
      · refine .inr ⟨fun c' hc => ?_, by simp only [if_neg hid]⟩
        obtain rfl := Option.some.inj hc
        exact hid

/-- Opening a cursor uses a failure up, or takes the next result. -/
theorem openCursor_cases (statement : Statement) (places : List Place) (s : Scripted) :
    let call := Call.openCursor statement.sql (places.map s.placeValue)
    (∃ f, s.waiting? .openCursor = some f ∧
        openCursor statement places s = (.error f.error, (s.record call).withoutFirst .openCursor)) ∨
      s.waiting? .openCursor = none ∧
        openCursor statement places s = (.ok ⟨s.opened + 1⟩, (s.record call).takeResult.2) := by
  intro call
  rw [openCursor_eq]
  cases hwaiting : s.waiting? .openCursor with
  | some f => exact .inl ⟨f, rfl, guarded_of_some hwaiting _ _⟩
  | none => exact .inr ⟨rfl, guarded_of_none hwaiting _ _⟩

/-- What a request does to results and cursors, with its reply. -/
inductive CursorStep (s : Scripted) : ScriptedRequest → ExecutorReply Scripted → Scripted → Prop
  | queued {rs : ResultSet} {t : Scripted} (hresults : t.results = s.results ++ [rs]) (hcursor : t.cursor = s.cursor)
    (hopened : t.opened = s.opened) : CursorStep s (.instruct (.result rs)) .done t
  | opened {statement : Statement} {places : List Place} {t : Scripted} (hresults : t.results = s.results.tail)
    (hcursor : t.cursor = some ⟨s.opened + 1, s.results.headD {}, 0, none⟩) (hopened : t.opened = s.opened + 1) :
    CursorStep s (.call (.openCursor statement places)) (.cursor (⟨s.opened + 1⟩ : Cursor)) t
  | moved {cursor : Cursor} {c : OpenCursor} {t : Scripted} (hopen : s.cursor = some c) (hid : c.id = cursor.id)
    (hresults : t.results = s.results) (hcursor : t.cursor = some c.advance) (hopened : t.opened = s.opened) :
    CursorStep s (.call (.fetch cursor)) .done t
  | ended {t : Scripted} (hresults : t.results = s.results) (hcursor : t.cursor = none)
    (hopened : t.opened = s.opened) : CursorStep s (.call .finish) .done t
  | other {request : ScriptedRequest} {reply : ExecutorReply Scripted} {t : Scripted}
    (hhistory : ∀ h : CursorHistory, h.after request reply = h) (hreply : reply.cursor? = none)
    (hresults : t.results = s.results) (hcursor : t.cursor = s.cursor) (hopened : t.opened = s.opened) :
    CursorStep s request reply t

/-- The part of the state that is about results and cursors. -/
def cursorState (s : Scripted) : List ResultSet × Option OpenCursor × Nat := (s.results, s.cursor, s.opened)

/-- A request that tells nothing of cursors and leaves them as they are. -/
theorem cursorStep_of_cursorState {s : Scripted} {request : ScriptedRequest}
    {answered : ExecutorReply Scripted × Scripted} (hhistory : ∀ (h : CursorHistory) reply, h.after request reply = h)
    (hreply : answered.1.cursor? = none)
    (hstate : answered.2.cursorState = s.cursorState) : CursorStep s request answered.1 answered.2 := by
  obtain ⟨hresults, hrest⟩ := Prod.ext_iff.1 hstate
  obtain ⟨hcursor, hopened⟩ := Prod.ext_iff.1 hrest
  exact .other (fun h => hhistory h _) hreply hresults hcursor hopened

theorem cursorState_takeAffected (s : Scripted) : s.takeAffected.2.cursorState = s.cursorState := by
  rw [takeAffected]
  split <;> rfl

/-- An operation leaves the cursors as what it goes on with does. -/
theorem cursorState_guarded {α : Type} {next : Step Scripted Error α}
    (h : ∀ s, (next s).2.cursorState = s.cursorState) (call : Scripted → Call) (operation : Operation) (s : Scripted) :
    (guarded call operation next s).2.cursorState = s.cursorState :=
  watch_guarded (fun _ _ => rfl) (fun _ _ => rfl) h call operation s

/-- Taking values in leaves the cursors as they are. -/
theorem TakesIn.cursorState_eq {s t : Scripted} (h : TakesIn s t) : t.cursorState = s.cursorState := by
  obtain ⟨more, rfl⟩ := h
  rfl

/-- Taking the current row leaves the cursors as they are. -/
theorem cursorState_currentRow (places : List Place) (s : Scripted) :
    (currentRow places s).2.cursorState = s.cursorState := by
  rw [currentRow]
  split
  · exact (takesIn_fillPlaces _ places _).cursorState_eq
  · rfl

/-- A step that tells nothing of cursors and leaves them as they are. -/
theorem cursorStep_replyOf {s : Scripted} {request : ScriptedRequest} {α : Type} {f : α → ExecutorReply Scripted}
    {step : Step Scripted Error α} (hhistory : ∀ (h : CursorHistory) reply, h.after request reply = h)
    (hreply : ∀ a, (f a).cursor? = none) (hstate : (step s).2.cursorState = s.cursorState) :
    CursorStep s request (Executor.replyOf f step s).1 (Executor.replyOf f step s).2 := by
  refine cursorStep_of_cursorState hhistory ?_ ?_
  · rw [Executor.replyOf]
    rcases step s with ⟨_ | a, t⟩
    · rfl
    · exact hreply a
  · rw [← hstate, Executor.replyOf]
    rcases step s with ⟨_ | a, t⟩ <;> rfl

/-- A fetch moves the open cursor, or fails and leaves it where it is. -/
theorem cursorStep_fetch (cursor : Cursor) (s : Scripted) :
    CursorStep s (.call (.fetch cursor)) (Executor.answer s (.fetch cursor)).1
      (Executor.answer s (.fetch cursor)).2 := by
  have hanswer : Executor.answer s (.fetch cursor) = Executor.replyOf (fun _ => .done) (fetch cursor) s := rfl
  rw [hanswer, Executor.replyOf]
  rcases fetch_cases cursor s with ⟨f, -, hfetch⟩ | ⟨-, ⟨c, hopen, hid, hfetch⟩ | ⟨-, hfetch⟩⟩ <;> rw [hfetch]
  · exact .other (fun _ => rfl) rfl rfl rfl rfl
  · exact .moved hopen hid rfl rfl rfl
  · exact .other (fun _ => rfl) rfl rfl rfl rfl

/-- A cursor that is opened takes the oldest result that waits and the place of the one before. -/
theorem cursorStep_openCursor (statement : Statement) (places : List Place) (s : Scripted) :
    CursorStep s (.call (.openCursor statement places)) (Executor.answer s (.openCursor statement places)).1
      (Executor.answer s (.openCursor statement places)).2 := by
  have hanswer : Executor.answer s (.openCursor statement places)
      = Executor.replyOf .cursor (openCursor statement places) s := rfl
  rw [hanswer, Executor.replyOf]
  rcases openCursor_cases statement places s with ⟨f, -, hopen⟩ | ⟨-, hopen⟩ <;> rw [hopen]
  · exact .other (fun _ => rfl) rfl rfl rfl rfl
  · exact .opened rfl rfl rfl

/-- Each request takes one of these steps. -/
theorem cursorStep_answer (s : Scripted) (request : ScriptedRequest) :
    CursorStep s request (s.answer request).1 (s.answer request).2 := by
  cases request with
  | instruct instruction =>
    cases instruction with
    | result rs => exact .queued rfl rfl rfl
    | affected | fail | ready => exact cursorStep_of_cursorState (fun _ _ => rfl) rfl rfl
  | clearCalls => exact cursorStep_of_cursorState (fun _ _ => rfl) rfl rfl
  | call request =>
    cases request with
    | fetch cursor => exact cursorStep_fetch cursor s
    | openCursor statement places => exact cursorStep_openCursor statement places s
    | finish => exact .ended rfl rfl rfl
    | prepare sql oids =>
      exact cursorStep_replyOf (fun _ _ => rfl) (fun _ => rfl) (cursorState_guarded (fun _ => rfl) _ .prepare s)
    | execute sql readOnly countLimit =>
      exact cursorStep_replyOf (fun _ _ => rfl) (fun _ => rfl)
        (cursorState_guarded cursorState_takeAffected _ .execute s)
    | executePrepared statement places readOnly countLimit =>
      exact cursorStep_replyOf (fun _ _ => rfl) (fun _ => rfl)
        (cursorState_guarded cursorState_takeAffected _ .execute s)
    | columns count => exact cursorStep_replyOf (fun _ _ => rfl) (fun _ => rfl) rfl
    | writeDatum v oid => exact cursorStep_replyOf (fun _ _ => rfl) (fun _ => rfl) rfl
    | currentRow places => exact cursorStep_of_cursorState (fun _ _ => rfl) rfl (cursorState_currentRow places s)
    | readDatum datum oid =>
      refine cursorStep_of_cursorState (fun _ _ => rfl) ?_ ?_
      · show (Executor.answer s (.readDatum datum oid)).1.cursor? = none
        rw [answer_readDatum]
        cases s.valueOf? datum <;> rfl
      · show (Executor.answer s (.readDatum datum oid)).2.cursorState = s.cursorState
        rw [answer_readDatum]
    | ready | dimensions => exact cursorStep_of_cursorState (fun _ _ => rfl) rfl rfl

/-! ## The state after a history -/

end Scripted

/-- Where the executor has the cursor, past the end if it has been fetched more often than there are rows. -/
def OpenedCursor.position (o : OpenedCursor) : Scripted.OpenCursor where
  id := o.cursor.id
  result := o.result
  next := min o.fetched o.result.rows.length
  current := if o.fetched = 0 ∨ o.result.rows.length < o.fetched then none else some (o.fetched - 1)

/-- One more fetch moves the cursor to the next row. -/
theorem OpenedCursor.position_fetch (o : OpenedCursor) : (o.fetch o.cursor).position = o.position.advance := by
  have hnext : o.position.next = min o.fetched o.result.rows.length := rfl
  have hrows : o.position.result.rows.length = o.result.rows.length := rfl
  rw [fetch, if_pos rfl, OpenCursor.advance]
  by_cases hmore : o.fetched < o.result.rows.length
  · rw [if_pos (by omega), hnext, Nat.min_eq_left (by omega)]
    simp only [position, OpenCursor.mk.injEq, true_and]
    exact ⟨by omega, if_neg (by omega)⟩
  · rw [if_neg (by omega)]
    simp only [position, OpenCursor.mk.injEq, true_and]
    exact ⟨by omega, if_pos (by omega)⟩

/-- After the latest cursor has been fetched once more, its next row is current. -/
theorem OpenedCursor.row?_fetch (o : OpenedCursor) : (o.fetch o.cursor).row? = o.result.rows[o.fetched]? := by
  rw [fetch, if_pos rfl, row?, if_neg (Nat.succ_ne_zero _), Nat.add_sub_cancel]

namespace Scripted

/-- The executor has results and cursors as the history tells. -/
structure Follows (h : CursorHistory) (s : Scripted) : Prop where
  results_eq : s.results = h.waiting
  cursor_eq : s.cursor = h.latest.map OpenedCursor.position

variable {h : CursorHistory} {s t : Scripted}

/-- The open cursor is the one that has been opened last. -/
theorem Follows.exists_latest (hs : Follows h s) {c : OpenCursor} (hc : s.cursor = some c) :
    ∃ o, h.latest = some o ∧ o.position = c := by
  rw [hs.cursor_eq] at hc
  exact Option.map_eq_some_iff.1 hc

/-- The history goes on as the executor does. -/
theorem Follows.step (hs : Follows h s) {request : ScriptedRequest} {reply : ExecutorReply Scripted}
    (hstep : CursorStep s request reply t) : Follows (h.after request reply) t := by
  cases hstep with
  | queued hresults hcursor => exact ⟨by rw [hresults, hs.results_eq]; rfl, hcursor.trans hs.cursor_eq⟩
  | opened hresults hcursor =>
    rw [hs.results_eq] at hresults hcursor
    refine ⟨hresults, hcursor.trans ?_⟩
    simp [CursorHistory.after, OpenedCursor.position]
  | @moved cursor c _ hopen hid hresults hcursor =>
    refine ⟨hresults.trans hs.results_eq, ?_⟩
    obtain ⟨o, ho, rfl⟩ := hs.exists_latest hopen
    obtain rfl : o.cursor = cursor := congrArg Cursor.mk hid
    rw [hcursor, ← o.position_fetch, CursorHistory.after, ho]
    rfl
  | ended hresults hcursor => exact ⟨hresults.trans hs.results_eq, hcursor⟩
  | other hhistory hreply hresults hcursor =>
    rw [hhistory]
    exact ⟨hresults.trans hs.results_eq, hcursor.trans hs.cursor_eq⟩

/-- What requests do to results and cursors is what they and their replies tell. -/
theorem Follows.answerAll (hs : Follows h s) (requests : List ScriptedRequest) :
    Follows (h.replay requests (s.answerAll requests).1) (s.answerAll requests).2 := by
  induction requests generalizing h s with
  | nil => exact hs
  | cons request rest ih => exact ih (hs.step (cursorStep_answer s request))

/-- The current row is the one that the last fetch has led to. -/
theorem Follows.currentRow?_eq (hs : Follows h s) : s.currentRow? = h.latest.bind OpenedCursor.row? := by
  rw [currentRow?, hs.cursor_eq]
  cases h.latest with
  | none => rfl
  | some o =>
    show (o.position.current.bind fun i => o.result.rows[i]?) = o.row?
    rw [OpenedCursor.position, OpenedCursor.row?]
    by_cases hzero : o.fetched = 0
    · simp [hzero]
    · by_cases hpast : o.result.rows.length < o.fetched
      · rw [if_pos (.inr hpast), if_neg hzero, List.getElem?_eq_none (by omega)]
        rfl
      · rw [if_neg (by omega), if_neg hzero]
        rfl

/-! ## What is served -/

/-- What the executor tells of the current row: whether there is one, and its cells. -/
structure TellsRow (row? : Option (List Value)) (s : Scripted) : Prop where
  rows : ∃ width, (s.answer (.call .dimensions)).1 = .size (if row?.isSome then 1 else 0) width
  cells : ∀ row (places : List Place), row? = some row → row.length = places.length →
    ∃ (written : List Place) (t : Scripted), s.answer (.call (.currentRow places)) = (.row written, t) ∧
      List.Forall₂ (Stands t) row written
  noCells : row? = none → ∀ places : List Place, (s.answer (.call (.currentRow places))).1 = .row places

/-- What an executor does with cursors after a history. -/
structure ServesOwnRows (h : CursorHistory) (s : Scripted) : Prop where
  waiting : s.results = h.waiting
  /-- The current row is the one that the latest cursor has been fetched to. -/
  row : TellsRow (h.latest.bind OpenedCursor.row?) s
  /-- Without a failure that waits, the latest cursor is fetched, and no other. -/
  fetch_iff : s.waiting? .fetch = none → ∀ cursor : Cursor,
    (s.answer (.call (.fetch cursor))).1 = .done ↔ h.latest.map OpenedCursor.cursor = some cursor
  /-- The fetch that succeeds after so many others leads to the row after so many others. -/
  next : ∀ (cursor : Cursor) (t : Scripted), s.answer (.call (.fetch cursor)) = (.done, t) →
    ∃ o, h.latest = some o ∧ o.cursor = cursor ∧ TellsRow o.result.rows[o.fetched]? t
  /-- A fetch that fails, for whatever reason, moves no cursor. -/
  failing : ∀ (cursor : Cursor) (e : Error) (t : Scripted), s.answer (.call (.fetch cursor)) = (.error e, t) →
    t.cursor = s.cursor ∧ t.results = s.results
  /-- A cursor that is opened takes the oldest result that waits, and is before its first row. -/
  opening : ∀ (statement : Statement) (places : List Place) (cursor : Cursor) (t : Scripted),
    s.answer (.call (.openCursor statement places)) = (.cursor cursor, t) →
      t.results = h.waiting.tail ∧ t.cursor = some ⟨cursor.id, h.waiting.headD {}, 0, none⟩

/-- There is a current row just where the executor has the cursor at one. -/
theorem Follows.isSome_row? (hs : Follows h s) :
    (h.latest.bind OpenedCursor.row?).isSome = (s.cursor.bind OpenCursor.current).isSome := by
  rw [hs.cursor_eq]
  cases h.latest with
  | none => rfl
  | some o =>
    show o.row?.isSome = o.position.current.isSome
    rw [OpenedCursor.row?, OpenedCursor.position]
    by_cases hzero : o.fetched = 0
    · simp [hzero]
    · by_cases hpast : o.result.rows.length < o.fetched
      · rw [if_neg hzero, if_pos (.inr hpast), List.getElem?_eq_none (by omega)]
        rfl
      · rw [if_neg hzero, if_neg (by omega), List.getElem?_eq_getElem (by omega)]
        rfl

theorem answer_currentRow (places : List Place) (s : Scripted) :
    s.answer (.call (.currentRow places))
      = ((.row (currentRow places s).1 : ExecutorReply Scripted), (currentRow places s).2) := rfl

/-- The executor tells the row that the history has made current. -/
theorem Follows.tellsRow (hs : Follows h s) : TellsRow (h.latest.bind OpenedCursor.row?) s := by
  have hcurrent : (s.record .currentRow).currentRow? = h.latest.bind OpenedCursor.row? := hs.currentRow?_eq
  refine ⟨?_, fun row places hrow hlength => ?_, fun hrow places => ?_⟩
  · rw [hs.isSome_row?]
    show ∃ width, ExecutorReply.size (dimensions s).1.1 (dimensions s).1.2 = _
    rw [dimensions]
    cases s.cursor with
    | none => exact ⟨0, rfl⟩
    | some c => exact ⟨c.result.columns.size, rfl⟩
  · rw [hrow] at hcurrent
    refine ⟨(fillPlaces row places (s.record .currentRow)).1, (fillPlaces row places (s.record .currentRow)).2, ?_,
      stands_fillPlaces hlength _⟩
    rw [answer_currentRow, currentRow]
    simp only [hcurrent]
  · rw [hrow] at hcurrent
    rw [answer_currentRow, currentRow]
    simp only [hcurrent]

/-- An executor that has results and cursors as the history tells serves rows by it. -/
theorem Follows.servesOwnRows (hs : Follows h s) : ServesOwnRows h s where
  waiting := hs.results_eq
  row := hs.tellsRow
  fetch_iff hwaiting cursor := by
    show (Executor.replyOf (fun _ => .done) (fetch cursor) s).1 = .done ↔ _
    rw [Executor.replyOf]
    rcases fetch_cases cursor s with ⟨f, hf, -⟩ | ⟨-, ⟨c, hopen, hid, hfetch⟩ | ⟨hother, hfetch⟩⟩
    · rw [hwaiting] at hf
      cases hf
    · obtain ⟨o, ho, rfl⟩ := hs.exists_latest hopen
      rw [hfetch, ho]
      exact iff_of_true rfl (congrArg (fun id => some (Cursor.mk id)) hid)
    · rw [hfetch]
      refine iff_of_false (fun hdone => ?_) fun hlatest => ?_
      · cases hdone
      obtain ⟨o, ho, rfl⟩ := Option.map_eq_some_iff.1 hlatest
      -- The latest cursor is the open one, and another handle does not fetch it.
      exact hother o.position (by rw [hs.cursor_eq, ho]; rfl) rfl
  next cursor t hfetch := by
    have hstep := cursorStep_answer s (.call (.fetch cursor))
    rw [hfetch] at hstep
    have hafter := (hs.step hstep).tellsRow
    cases hstep with
    | moved hopen hid hresults hcursor =>
      obtain ⟨o, ho, rfl⟩ := hs.exists_latest hopen
      obtain rfl : o.cursor = cursor := congrArg Cursor.mk hid
      have hrow : ((h.after (.call (.fetch o.cursor)) .done).latest.bind OpenedCursor.row?)
          = o.result.rows[o.fetched]? := by
        rw [CursorHistory.after, ho, ← o.row?_fetch]
        rfl
      rw [hrow] at hafter
      exact ⟨o, ho, rfl, hafter⟩
    | other hhistory =>
      -- A fetch that has succeeded is told by the history.
      have hfetched := congrArg CursorHistory.latest (hhistory ⟨[], some ⟨cursor, {}, 0⟩⟩)
      simp [CursorHistory.after, OpenedCursor.fetch] at hfetched
  failing cursor e t hfetch := by
    have hstep := cursorStep_answer s (.call (.fetch cursor))
    rw [hfetch] at hstep
    cases hstep with
    | other hhistory hreply hresults hcursor => exact ⟨hcursor, hresults⟩
  opening statement places cursor t hopen := by
    have hstep := cursorStep_answer s (.call (.openCursor statement places))
    rw [hopen] at hstep
    cases hstep with
    | opened hresults hcursor =>
      rw [hs.results_eq] at hresults hcursor
      exact ⟨hresults, hcursor⟩
    | other hhistory hreply => cases hreply

/-! ## Whole runs -/

/-- A cursor that has just been opened has a handle of its own. -/
theorem handle_of_cursorStep {request : ScriptedRequest} {reply : ExecutorReply Scripted}
    (hstep : CursorStep s request reply t) :
    (reply.cursor? = none ∧ t.opened = s.opened) ∨
      reply.cursor? = some ⟨s.opened + 1⟩ ∧ t.opened = s.opened + 1 := by
  cases hstep with
  | queued _ _ hopened => exact .inl ⟨rfl, hopened⟩
  | opened _ _ hopened => exact .inr ⟨rfl, hopened⟩
  | moved _ _ _ _ hopened => exact .inl ⟨rfl, hopened⟩
  | ended _ _ hopened => exact .inl ⟨rfl, hopened⟩
  | other _ hreply _ _ hopened => exact .inl ⟨hreply, hopened⟩

/-- The handles of cursors count on. -/
theorem nodup_handles (s : Scripted) (requests : List ScriptedRequest) :
    ((s.answerAll requests).1.filterMap ExecutorReply.cursor?).Nodup ∧
      ∀ cursor ∈ (s.answerAll requests).1.filterMap ExecutorReply.cursor?, s.opened < cursor.id := by
  induction requests generalizing s with
  | nil => exact ⟨.nil, nofun⟩
  | cons request rest ih =>
    obtain ⟨hnodup, hlater⟩ := ih (s.answer request).2
    have hreplies : (s.answerAll (request :: rest)).1
        = (s.answer request).1 :: ((s.answer request).2.answerAll rest).1 := rfl
    rw [hreplies]
    rcases handle_of_cursorStep (cursorStep_answer s request) with ⟨hnone, hopened⟩ | ⟨hsome, hopened⟩
    · rw [List.filterMap_cons_none hnone]
      exact ⟨hnodup, fun cursor hmem => by rw [← hopened]; exact hlater cursor hmem⟩
    · rw [List.filterMap_cons_some hsome]
      rw [hopened] at hlater
      constructor
      · refine List.nodup_cons.2 ⟨fun hmem => ?_, hnodup⟩
        exact absurd (hlater _ hmem) (lt_irrefl _)
      · refine List.forall_mem_cons.2 ⟨Nat.lt_succ_self _, fun cursor hmem => ?_⟩
        exact Nat.lt_of_succ_lt (hlater cursor hmem)

/-- Whatever a new executor is asked for, in whatever order cursors are opened, fetched and given up, no two cursors are
the same, and the executor serves rows as the history of requests and replies tells: a fetch succeeds only for the
cursor opened last, while no context has been ended since, and leads from each row of its own result to the next. -/
theorem servesOwnRows_answerAll {requests : List ScriptedRequest} {replies : List (ExecutorReply Scripted)}
    {s : Scripted} (hasked : answerAll {} requests = (replies, s)) :
    (replies.filterMap ExecutorReply.cursor?).Nodup ∧
      ServesOwnRows (CursorHistory.replay {} requests replies) s := by
  have hstart : Follows {} ({} : Scripted) := ⟨rfl, rfl⟩
  have hfollows := hstart.answerAll requests
  have hnodup := (nodup_handles {} requests).1
  rw [hasked] at hfollows hnodup
  exact ⟨hnodup, hfollows.servesOwnRows⟩

/-- Two cursors, of which the second takes over from the first, and a fetch that is made to fail. -/
def requestsForCursors : List ScriptedRequest :=
  [.instruct (.result ⟨⟨[⟨"a", 23⟩]⟩, [[.int4 1], [.int4 2]]⟩),
    .instruct (.result ⟨⟨[⟨"b", 25⟩]⟩, [[.text "x"], [.text "y"]]⟩),
    .call (.openCursor (⟨"select a"⟩ : Statement) ([] : List Place)), .call (.fetch (⟨1⟩ : Cursor)),
    .call (.openCursor (⟨"select b"⟩ : Statement) ([] : List Place)), .call (.fetch (⟨2⟩ : Cursor)),
    .instruct (.fail ⟨.fetch, -1, "lost"⟩), .call (.fetch (⟨2⟩ : Cursor)), .call (.fetch (⟨1⟩ : Cursor))]

/-- The second cursor has been fetched once and goes on with its second row; the first is not served any more. -/
theorem servesOwnRows_answerAll_two_cursors :
    ∃ (replies : List (ExecutorReply Scripted)) (s t : Scripted) (second : OpenedCursor),
      answerAll {} requestsForCursors = (replies, s) ∧ s.waiting? .fetch = none ∧
      replies.filterMap ExecutorReply.cursor? = [⟨1⟩, ⟨2⟩] ∧
      (CursorHistory.replay {} requestsForCursors replies).latest = some second ∧ second.cursor = ⟨2⟩ ∧
      second.fetched = 1 ∧ TellsRow (some [.text "x"]) s ∧ (s.answer (.call (.fetch (⟨1⟩ : Cursor)))).1 ≠ .done ∧
      s.answer (.call (.fetch (⟨2⟩ : Cursor))) = (.done, t) ∧ TellsRow (some [.text "y"]) t := by
  have hrun : ∃ (replies : List (ExecutorReply Scripted)) (s t : Scripted) (second : OpenedCursor),
      answerAll {} requestsForCursors = (replies, s) ∧ s.waiting? .fetch = none ∧
      replies.filterMap ExecutorReply.cursor? = [⟨1⟩, ⟨2⟩] ∧
      (CursorHistory.replay {} requestsForCursors replies).latest = some second ∧ second.cursor = ⟨2⟩ ∧
      second.fetched = 1 ∧ second.result.rows = [[.text "x"], [.text "y"]] ∧
      s.answer (.call (.fetch (⟨2⟩ : Cursor))) = (.done, t) :=
    ⟨_, _, _, _, rfl, rfl, rfl, rfl, rfl, rfl, rfl, rfl⟩
  obtain ⟨replies, s, t, second, hasked, hwaiting, hhandles, hlatest, hcursor, hfetched, hrows, hnext⟩ := hrun
  have hserves := (servesOwnRows_answerAll hasked).2
  have hrow := hserves.row
  rw [hlatest] at hrow
  have hcurrent : second.row? = some [.text "x"] := by rw [OpenedCursor.row?, hfetched, hrows]; rfl
  have hrefused := (hserves.fetch_iff hwaiting ⟨1⟩).1
  obtain ⟨o, ho, -, hafter⟩ := hserves.next ⟨2⟩ t hnext
  obtain rfl : second = o := Option.some.inj (hlatest.symm.trans ho)
  rw [hfetched, hrows] at hafter
  refine ⟨replies, s, t, second, hasked, hwaiting, hhandles, hlatest, hcursor, hfetched, hcurrent ▸ hrow,
    fun hdone => ?_, hnext, hafter⟩
  have hfirst := hrefused hdone
  rw [hlatest, Option.map_some, hcursor] at hfirst
  exact absurd hfirst (by decide)

end Scripted

end InProcessSql
