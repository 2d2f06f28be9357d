import InProcessSql.Proofs.Executor.Answers
import InProcessSql.Proofs.Executor.Recording
import InProcessSql.Workload.ExecutorRequest

/-!
# Datums that have been handed out

The scripted executor hands datums out in two ways: for a value that it is given, and for each cell of a row that is
not null. `Scripted.issued` lists the datums of a run with the values that they are for, as its replies show them. They
count on from the values that the executor had before the run, which is what `Scripted.Issues` says of one request and
of many, so that no datum is handed out twice. `Scripted.issued_datums_stand` says that each stands for its value ever
after.
-/

namespace InProcessSql.Scripted

/-! ## What a run hands out -/

/-- The cells of a row that are not null, each with the datum of its place. -/
def cellDatums : List Value → List Place → List (Nat × Value)
  | v :: vs, p :: places => if v.isNull then cellDatums vs places else (p.datum, v) :: cellDatums vs places
  | _, _ => []

/-- The datums that a reply hands out, each with the value that it is for. -/
def issuedBy (s : Scripted) : ScriptedRequest → ExecutorReply Scripted → List (Nat × Value)
  | .call (.writeDatum v _), .datum d => [(d, v)]
  | .call (.currentRow _), .row places => cellDatums (s.currentRow?.getD []) places
  | _, _ => []

/-- The datums that requests are answered with, in order, each with the value that it is for. -/
def issued (s : Scripted) : List ScriptedRequest → List (Nat × Value)
  | [] => []
  | request :: rest => issuedBy s request (s.answer request).1 ++ issued (s.answer request).2 rest

/-- Datums are issued one after the other. -/
theorem issued_append (s : Scripted) (earlier later : List ScriptedRequest) :
    s.issued (earlier ++ later) = s.issued earlier ++ (s.answerAll earlier).2.issued later := by
  induction earlier generalizing s with
  | nil => rfl
  | cons request rest ih =>
    rw [List.cons_append, issued, issued, ih, List.append_assoc]
    rfl

/-! ## Counting on -/

/-- On the way from the first state to the second these datums have been handed out: the values that they are for have
been taken in, and the datums are their numbers. -/
structure Issues (issued : List (Nat × Value)) (s t : Scripted) : Prop where
  datums_eq : t.datums = s.datums ++ issued.map Prod.snd
  numbers_eq : issued.map Prod.fst = List.range' (s.datums.length + 1) issued.length

variable {earlier later : List (Nat × Value)} {s t u : Scripted}

/-- Where no value is stored, no datum is issued. -/
theorem issues_of_eq (h : t.datums = s.datums) : Issues [] s t :=
  ⟨by rw [h, List.map_nil, List.append_nil], rfl⟩

/-- What is issued along the way is issued one after the other. -/
theorem Issues.trans (h : Issues earlier s t) (h' : Issues later t u) : Issues (earlier ++ later) s u := by
  constructor
  · rw [h'.datums_eq, h.datums_eq, List.map_append, List.append_assoc]
  · have hlength : t.datums.length = s.datums.length + earlier.length := by
      rw [h.datums_eq, List.length_append, List.length_map]
    have hrange := List.range'_append_1 (s := s.datums.length + 1) (m := earlier.length) (n := later.length)
    rw [List.map_append, h.numbers_eq, h'.numbers_eq, hlength, List.length_append, ← hrange, Nat.add_right_comm]

/-- No datum is handed out twice. -/
theorem Issues.nodup (h : Issues earlier s t) : (earlier.map Prod.fst).Nodup := by
  rw [h.numbers_eq]
  exact List.nodup_range'

/-- A datum that has been handed out comes after those from before, and stands for its value. -/
theorem Issues.valueOf?_eq (h : Issues earlier s t) {d : Nat} {v : Value} (hmem : (d, v) ∈ earlier) :
    s.datums.length < d ∧ t.valueOf? d = some v := by
  obtain ⟨i, hi, hget⟩ := List.mem_iff_getElem.1 hmem
  have hnumber : (earlier.map Prod.fst)[i]? = some d := by
    rw [List.getElem?_map, List.getElem?_eq_getElem hi, hget]
    rfl
  have hvalue : (earlier.map Prod.snd)[i]? = some v := by
    rw [List.getElem?_map, List.getElem?_eq_getElem hi, hget]
    rfl
  rw [h.numbers_eq, List.getElem?_range' hi] at hnumber
  obtain rfl : s.datums.length + 1 + 1 * i = d := Option.some.inj hnumber
  refine ⟨by omega, ?_⟩
  rw [valueOf?, if_neg (by omega), h.datums_eq, List.getElem?_append_right (by omega), ← hvalue]
  congr 1
  omega

/-! ## The operations -/

/-- Storing a value issues its datum, unless it is null. -/
theorem issues_storePlace (v : Value) (s : Scripted) :
    Issues (cellDatums [v] [(storePlace v s).1]) s (storePlace v s).2 := by
  rw [storePlace]
  cases hnull : v.isNull with
  | true =>
    rw [cellDatums, if_pos hnull]
    exact issues_of_eq rfl
  | false =>
    rw [cellDatums, if_neg (Bool.eq_false_iff.1 hnull)]
    exact ⟨rfl, rfl⟩

theorem cellDatums_cons (v : Value) (vs : List Value) (p : Place) (places : List Place) :
    cellDatums (v :: vs) (p :: places) = cellDatums [v] [p] ++ cellDatums vs places := by
  rw [cellDatums, cellDatums]
  split <;> rfl

/-- Writing a row over places hands out a datum for each cell that is not null. -/
theorem issues_fillPlaces (row : List Value) (places : List Place) (s : Scripted) :
    Issues (cellDatums row (fillPlaces row places s).1) s (fillPlaces row places s).2 := by
  induction row generalizing places s with
  | nil =>
    rw [fillPlaces, cellDatums]
    · exact issues_of_eq rfl
    · exact nofun
  | cons v vs ih =>
    cases places with
    | nil => exact issues_of_eq rfl
    | cons place places =>
      have hboth := (issues_storePlace v s).trans (ih places (storePlace v s).2)
      rw [← cellDatums_cons] at hboth
      exact hboth

/-- Taking the current row issues a datum for each cell that is not null. -/
theorem issues_currentRow (places : List Place) (s : Scripted) :
    Issues (cellDatums (s.currentRow?.getD []) (currentRow places s).1) s (currentRow places s).2 := by
  have hrecorded : (s.record .currentRow).currentRow? = s.currentRow? := rfl
  rw [currentRow]
  simp only [hrecorded]
  cases s.currentRow? with
  | none => exact issues_of_eq rfl
  | some row =>
    have hrecorded : Issues [] s (s.record .currentRow) := issues_of_eq rfl
    exact hrecorded.trans (issues_fillPlaces row places (s.record .currentRow))

/-- An operation that records its call and may fail hands out nothing, if what it goes on with takes nothing in. -/
theorem datums_guarded {α : Type} {next : Step Scripted Error α} (h : ∀ s, (next s).2.datums = s.datums)
    (call : Scripted → Call) (operation : Operation) (s : Scripted) :
    (guarded call operation next s).2.datums = s.datums :=
  watch_guarded (fun _ _ => rfl) (fun _ _ => rfl) h call operation s

theorem datums_takeAffected (s : Scripted) : s.takeAffected.2.datums = s.datums := by
  rw [takeAffected]
  split <;> rfl

theorem datums_moveCursor (cursor : Cursor) (s : Scripted) : (moveCursor cursor s).2.datums = s.datums := by
  rw [moveCursor]
  split
  · split <;> rfl
  · rfl

/-- A step that takes no value in hands nothing out. -/
theorem issues_replyOf {α : Type} {f : α → ExecutorReply Scripted} {step : Step Scripted Error α}
    (h : (step s).2.datums = s.datums) : Issues [] s (Executor.replyOf f step s).2 := by
  refine issues_of_eq ?_
  rw [← h, Executor.replyOf]
  rcases step s with ⟨_ | a, t⟩ <;> rfl

/-- Reading a datum tells the value that it stands for. -/
theorem answer_readDatum (d : Nat) (oid : Oid) (s : Scripted) :
    Executor.answer s (.readDatum d oid) =
      (match s.valueOf? d with
        | some v => .value v
        | none => .error (.decode oid (.unknownDatum d)), s) := by
  have hread : Executor.readDatum d oid s = readDatum d oid s := rfl
  simp only [Executor.answer, hread, readDatum]
  cases s.valueOf? d <;> rfl

/-- What a request is answered with has been handed out by it, and nothing else. -/
theorem issues_answer (s : Scripted) (request : ScriptedRequest) :
    Issues (issuedBy s request (s.answer request).1) s (s.answer request).2 := by
  cases request with
  | instruct instruction => cases instruction <;> exact issues_of_eq rfl
  | clearCalls => exact issues_of_eq rfl
  | call request =>
    cases request with
    | prepare sql oids => exact issues_replyOf (datums_guarded (fun _ => rfl) _ .prepare s)
    | execute sql readOnly countLimit => exact issues_replyOf (datums_guarded datums_takeAffected _ .execute s)
    | executePrepared statement places readOnly countLimit =>
      exact issues_replyOf (datums_guarded datums_takeAffected _ .execute s)
    | openCursor statement places => exact issues_replyOf (datums_guarded (fun _ => rfl) _ .openCursor s)
    | fetch cursor => exact issues_replyOf (datums_guarded (datums_moveCursor cursor) _ .fetch s)
    | columns count => exact issues_replyOf rfl
    | readDatum datum oid =>
      refine issues_of_eq ?_
      show (Executor.answer s (.readDatum datum oid)).2.datums = s.datums
      rw [answer_readDatum]
    | currentRow places => exact issues_currentRow places s
    | writeDatum v oid => exact ⟨rfl, rfl⟩
    | ready | dimensions | finish => exact issues_of_eq rfl

/-- Any requests issue the datums that their replies tell. -/
theorem issues_answerAll (s : Scripted) (requests : List ScriptedRequest) :
    Issues (s.issued requests) s (s.answerAll requests).2 := by
  induction requests generalizing s with
  | nil => exact issues_of_eq rfl
  | cons request rest ih => exact (issues_answer s request).trans (ih (s.answer request).2)

/-! ## Binding what has been handed out -/

/-- A datum that stands for a value is bound as that value. -/
theorem map_placeValue_getElem? {places : List Place} {k d : Nat} {v : Value} (hplace : places[k]? = some ⟨d, false⟩)
    (hd : s.valueOf? d = some v) : (places.map s.placeValue)[k]? = some v := by
  rw [List.getElem?_map, hplace, Option.map_some, placeValue, hd]
  rfl

theorem calls_of_records {α : Type} {calls : List Call} {f : α → ExecutorReply Scripted}
    {step : Step Scripted Error α} (h : Records calls s (step s).2) :
    (Executor.replyOf f step s).2.calls = s.calls ++ calls := by
  rw [← h.calls_eq, Executor.replyOf]
  rcases step s with ⟨_ | a, t⟩ <;> rfl

/-- No two datums that a run hands out are the same, and none is that of null or one from before the run. After any
further requests each datum is still read as the value that it was handed out for, and where it is bound to a parameter
that value is recorded. -/
theorem issued_datums_stand (s : Scripted) (requests : List ScriptedRequest) :
    ((s.issued requests).map Prod.fst).Nodup ∧
      ∀ d v, (d, v) ∈ s.issued requests →
        d ≠ (@Executor.noDatum Scripted _) ∧ s.datums.length < d ∧
        ∀ later,
          let t := (s.answerAll (requests ++ later)).2
          (∀ oid, t.answer (.call (.readDatum d oid)) = (.value v, t)) ∧
          ∀ (statement : Statement) (places : List Place) (k : Nat), places[k]? = some ⟨d, false⟩ →
            ∃ values : List Value, values.length = places.length ∧ values[k]? = some v ∧
              (t.answer (.call (.openCursor statement places))).2.calls
                = t.calls ++ [.openCursor statement.sql values] ∧
              ∀ readOnly countLimit,
                (t.answer (.call (.executePrepared statement places readOnly countLimit))).2.calls
                  = t.calls ++ [.executePrepared statement.sql values] := by
  have hissues := issues_answerAll s requests
  refine ⟨hissues.nodup, fun d v hmem => ?_⟩
  have hbefore := (hissues.valueOf?_eq hmem).1
  have hzero : d ≠ 0 := by omega
  refine ⟨hzero, hbefore, fun later => ?_⟩
  intro t
  -- What was handed out before is also handed out in the longer run.
  have hmem' : (d, v) ∈ s.issued (requests ++ later) := by
    rw [issued_append]
    exact List.mem_append_left _ hmem
  have hstands : t.valueOf? d = some v := ((issues_answerAll s (requests ++ later)).valueOf?_eq hmem').2
  constructor
  · intro oid
    show Executor.answer t (.readDatum d oid) = _
    rw [answer_readDatum, hstands]
  · intro statement places k hplace
    exact ⟨places.map t.placeValue, List.length_map .., map_placeValue_getElem? hplace hstands,
      calls_of_records (records_openCursor statement places t),
      fun readOnly countLimit => calls_of_records (records_executePrepared statement places t)⟩

/-- A value that is handed over, and then a row with the same value twice and a null between them. -/
def requestsForDatums : List ScriptedRequest :=
  [.instruct (.result ⟨⟨[⟨"a", 23⟩, ⟨"b", 25⟩, ⟨"c", 23⟩]⟩, [[.int4 7, .null, .int4 7]]⟩),
    .call (.writeDatum (.text "x") 25), .call (.openCursor (⟨"select a, b, c"⟩ : Statement) ([] : List Place)),
    .call (.fetch (⟨1⟩ : Cursor)), .call (.currentRow (List.replicate 3 (⟨0, false⟩ : Place)))]

/-- After the context has been ended and the calls have been forgotten, the second of the equal cells is still known
by its own datum. -/
theorem issued_datums_stand_after_finish :
    ∃ t : Scripted, (answerAll {} (requestsForDatums ++ [.call .finish, .clearCalls])).2 = t ∧
      issued {} requestsForDatums = [(1, .text "x"), (2, .int4 7), (3, .int4 7)] ∧
      t.answer (.call (.readDatum (3 : Nat) 23)) = (.value (.int4 7), t) ∧
      ∃ values : List Value, values[1]? = some (.int4 7) ∧
        (t.answer (.call (.openCursor (⟨"select $1, $2"⟩ : Statement) ([⟨1, true⟩, ⟨3, false⟩] : List Place)))).2.calls
          = [.openCursor "select $1, $2" values] := by
  have hissued : issued {} requestsForDatums = [(1, .text "x"), (2, .int4 7), (3, .int4 7)] := rfl
  obtain ⟨-, hstand⟩ := issued_datums_stand {} requestsForDatums
  obtain ⟨-, -, hlater⟩ := hstand 3 (.int4 7) (by rw [hissued]; simp)
  obtain ⟨hread, hbind⟩ := hlater [.call .finish, .clearCalls]
  obtain ⟨values, -, hvalue, hcalls, -⟩ := hbind ⟨"select $1, $2"⟩ [⟨1, true⟩, ⟨3, false⟩] 1 rfl
  exact ⟨_, rfl, hissued, hread 23, values, hvalue, hcalls⟩

end InProcessSql.Scripted
