import InProcessSql.Proofs.AgreeingRuns
import InProcessSql.Proofs.RowPlaces

/-!
# Readers of an executor that has been used before

The scripted executor numbers its datums from the first value that it has ever been given. After other calls it
numbers the values of a row higher, and nothing else is different: `Scripted.after` puts calls and values before those
of a state, `Reader.renumber` moves the datums of a reader, and `Reader.answerAll_renumber` says that the reader
answers the same and makes the same calls.
-/

namespace InProcessSql

open Scripted

namespace Scripted

/-! ## States with a past -/

/-- The state with calls that have been made and values that have been taken in before. -/
def after (calls : List Call) (values : List Value) (s : Scripted) : Scripted :=
  { s with calls := calls ++ s.calls, datums := values ++ s.datums }

/-- The datum with so many values before. Datum zero goes with nulls. -/
def renumberDatum (n d : Nat) : Nat := if d = 0 then 0 else d + n

/-- The place with its datum renumbered. -/
def renumberPlace (n : Nat) (p : Place) : Place := { p with datum := renumberDatum n p.datum }

variable {calls : List Call} {values : List Value}

/-- The second state is the first with these calls and values before. -/
def IsAfter (calls : List Call) (values : List Value) (s t : Scripted) : Prop := t = s.after calls values

/-- The state without the calls made and the values taken in so far. -/
def fresh (s : Scripted) : Scripted := { s with calls := [], datums := [] }

/-- A state is behind the fresh one by its own calls and values. -/
theorem isAfter_fresh (s : Scripted) : IsAfter s.calls s.datums s.fresh s := by
  simp only [IsAfter, fresh, after, List.append_nil]

/-- A call may be recorded before or after the others are put in front. -/
theorem record_after (call : Call) (s : Scripted) :
    (s.after calls values).record call = (s.record call).after calls values := by
  simp only [record, after, List.append_assoc]

/-- A datum that is renumbered stands for the value it stood for. -/
theorem valueOf?_after (s : Scripted) (d : Nat) :
    (s.after calls values).valueOf? (renumberDatum values.length d) = s.valueOf? d := by
  rw [valueOf?, valueOf?, renumberDatum]
  by_cases hzero : d = 0
  · rw [if_pos hzero, if_pos rfl, if_pos hzero]
  · have hplaced : d + values.length - 1 = values.length + (d - 1) := by omega
    rw [if_neg hzero, if_neg hzero, if_neg (by omega), hplaced]
    simp only [after, List.getElem?_append_right (Nat.le_add_right _ _), Nat.add_sub_cancel_left]

/-- A value that is stored later gets the renumbered place. -/
theorem storePlace_after (v : Value) (s : Scripted) :
    storePlace v (s.after calls values) =
      (renumberPlace values.length (storePlace v s).1, (storePlace v s).2.after calls values) := by
  rw [storePlace, storePlace]
  split
  · rfl
  · simp only [store, after, renumberPlace, renumberDatum, List.append_assoc, List.length_append, Nat.succ_ne_zero,
      if_false, Prod.mk.injEq, Slot.mk.injEq, and_true]
    omega

/-- Values that are written over renumbered places get renumbered places. -/
theorem fillPlaces_after (vs : List Value) (places : List Place) (s : Scripted) :
    fillPlaces vs (places.map (renumberPlace values.length)) (s.after calls values) =
      ((fillPlaces vs places s).1.map (renumberPlace values.length),
        (fillPlaces vs places s).2.after calls values) := by
  induction vs generalizing places s with
  | nil => rfl
  | cons v vs ih =>
    cases places with
    | nil => rfl
    | cons place places => simp only [List.map_cons, fillPlaces, storePlace_after, ih]

/-- The current row is written over renumbered places with renumbered places. -/
theorem currentRow_after (places : List Place) (s : Scripted) :
    currentRow (places.map (renumberPlace values.length)) (s.after calls values) =
      ((currentRow places s).1.map (renumberPlace values.length), (currentRow places s).2.after calls values) := by
  have hcurrent : ((s.record .currentRow).after calls values).currentRow? = (s.record .currentRow).currentRow? := rfl
  simp only [currentRow, record_after, hcurrent]
  cases (s.record .currentRow).currentRow? with
  | none => rfl
  | some row => exact fillPlaces_after row places (s.record .currentRow)

/-- Moving a cursor has nothing to do with the past. -/
theorem agree_fetch (cursor : Cursor) : Step.Agree (IsAfter calls values) Eq (fetch cursor) (fetch cursor) := by
  rintro s _ rfl
  have hwaiting : (s.after calls values).waiting? .fetch = s.waiting? .fetch := rfl
  rw [fetch_eq]
  cases hfailure : s.waiting? .fetch with
  | some f =>
    rw [guarded_of_some hfailure, guarded_of_some (hwaiting.trans hfailure), record_after]
    exact .error _ rfl
  | none =>
    rw [guarded_of_none hfailure, guarded_of_none (hwaiting.trans hfailure), record_after]
    have hcursor : ((s.record .fetch).after calls values).cursor = (s.record .fetch).cursor := rfl
    rw [moveCursor, moveCursor, hcursor]
    split
    · split
      · exact .ok rfl rfl
      · exact .error _ rfl
    · exact .error _ rfl

/-- The number of rows and columns does not depend on what happened before. -/
theorem dimensions_after (s : Scripted) :
    dimensions (s.after calls values) = ((dimensions s).1, (dimensions s).2.after calls values) := by
  rw [dimensions, record_after]
  rfl

/-- The columns do not depend on what happened before. -/
theorem agree_columns (count : Nat) : Step.Agree (IsAfter calls values) Eq (columns count) (columns count) := by
  rintro s _ rfl
  simp only [columns, Step.bind_apply, Step.update_apply, Step.total_apply, record_after]
  exact .ok rfl rfl

theorem finish_after (s : Scripted) : (s.after calls values).finish = s.finish.after calls values := by
  simp only [finish, record_after]
  rfl

/-- The datum is zero or has been given out. -/
def Known (s : Scripted) (p : Place) : Prop := p.datum ≤ s.datums.length

/-- Places of the current row stand for known datums, and keep doing so. -/
theorem ofPlaces_known : OfPlaces Known where
  blank s := Nat.zero_le _
  stored v s := by
    rw [storePlace]
    split
    · exact Nat.zero_le _
    · simp [store, Known]
  kept := by
    rintro s t p ⟨more, hmore, -⟩ hp
    have hlength : s.datums.length ≤ t.datums.length := by
      rw [hmore, List.length_append]
      exact Nat.le_add_right _ _
    exact Nat.le_trans hp hlength

/-- A known datum is read as before. -/
theorem readDatum_after {s : Scripted} {p : Place} (hp : Known s p) (oid : Oid) :
    (readDatum (renumberPlace values.length p).datum oid (s.after calls values)).1 = (readDatum p.datum oid s).1 := by
  have hvalue : (s.after calls values).valueOf? (renumberDatum values.length p.datum) = _ := valueOf?_after s p.datum
  rw [readDatum, readDatum, renumberPlace, hvalue]
  cases hv : s.valueOf? p.datum with
  | some v => rfl
  | none =>
    have hzero : p.datum = 0 := by
      rw [valueOf?] at hv
      by_contra hne
      rw [if_neg hne, List.getElem?_eq_none_iff] at hv
      have hp : p.datum ≤ s.datums.length := hp
      omega
    rw [hzero]
    rfl

end Scripted

/-! ## Readers -/

namespace Reader

open Connection

variable {calls : List Call} {values : List Value}

/-- The reader with the datums of its row renumbered. -/
def renumber (n : Nat) (r : Reader Scripted) : Reader Scripted :=
  { r with
    phase := match r.phase with
      | .active statement cursor row => .active statement cursor (row.map (List.map (renumberPlace n)))
      | .exhausted => .exhausted
      | .closed => .closed }

/-- A reader with its datums renumbered, on a connection whose executor has the calls and values before. -/
structure IsLater (calls : List Call) (values : List Value) (x y : Reader Scripted × Connection Scripted) :
    Prop where
  reader : y.1 = x.1.renumber values.length
  connection : Matched (IsAfter calls values) x.2 y.2

theorem matched_release {c d : Connection Scripted} (h : Matched (IsAfter calls values) c d) :
    Matched (IsAfter calls values) c.release d.release := by
  have hexecutor : d.executor = c.executor.after calls values := h.executor
  refine ⟨?_, h.options⟩
  show d.executor.finish = c.executor.finish.after calls values
  rw [hexecutor, finish_after]

/-- Blank places are the same at any time. -/
theorem placesFor_renumber (n : Nat) (previous : Option (List Place)) (cs : Columns) :
    @placesFor Scripted _ (previous.map (List.map (renumberPlace n))) cs
      = (@placesFor Scripted _ previous cs).map (renumberPlace n) := by
  cases previous with
  | none =>
    simp only [placesFor, Option.map_none, Option.getD_none, List.map_replicate]
    rfl
  | some places => rfl

/-- A row is fetched with its datums renumbered. -/
theorem agree_fetchRow_renumber (cursor : Scripted.Cursor) (known : Option Columns) (previous : Option (List Place)) :
    Step.Agree (Matched (IsAfter calls values))
      (Option.Rel fun fetched fetched' =>
        fetched.1 = fetched'.1 ∧ fetched'.2 = fetched.2.map (renumberPlace values.length))
      (@fetchRow Scripted _ cursor known previous)
      (@fetchRow Scripted _ cursor known (previous.map (List.map (renumberPlace values.length)))) := by
  refine agree_fetchRow (P := fun row row' => row' = row.map (renumberPlace values.length)) cursor known previous _
    (agree_fetch cursor) ?_ agree_columns ?_
  · rintro s _ rfl
    have hsize : Executor.dimensions (s.after calls values) = _ := dimensions_after s
    rw [hsize]
    exact ⟨rfl, rfl⟩
  · rintro cs s _ rfl
    have hwritten : Executor.currentRow ((@placesFor Scripted _ previous cs).map (renumberPlace values.length))
        (s.after calls values) = _ := currentRow_after (@placesFor Scripted _ previous cs) s
    rw [placesFor_renumber, hwritten]
    exact ⟨rfl, rfl⟩

variable {r : Reader Scripted} {c d : Connection Scripted}

/-- A reader that is moved finds the same rows. -/
theorem agreeing_read_renumber (r : Reader Scripted) (h : Matched (IsAfter calls values) c d) :
    Agreeing (IsLater calls values) Eq (r.read c) ((r.renumber values.length).read d) := by
  obtain ⟨phase, columns, rowsFetched, recordsAffected⟩ := r
  cases phase with
  | exhausted => exact .ok rfl ⟨rfl, h⟩
  | closed => exact .ok rfl ⟨rfl, h⟩
  | active statement cursor row =>
    obtain ⟨next, next', c', d', hok, hok', hsame, hnext⟩ | ⟨e, c', d', herror, herror', hnext⟩ :=
      agree_fetchRow_renumber cursor columns row c d h
    · simp only [Reader.read, renumber, hok, hok']
      cases hsame with
      | none => exact .ok rfl ⟨rfl, matched_release (hnext.emit _ _)⟩
      | @some fetched fetched' hfetched =>
        obtain ⟨cs, places⟩ := fetched
        obtain ⟨_, _⟩ := fetched'
        obtain ⟨rfl, rfl⟩ := hfetched
        exact .ok rfl ⟨rfl, hnext⟩
    · simp only [Reader.read, renumber, herror, herror']
      exact .error e ⟨rfl, matched_release (hnext.emit _ _)⟩

/-- A later reader is closed as the first one is. -/
theorem isLater_close (r : Reader Scripted) (h : Matched (IsAfter calls values) c d) :
    IsLater calls values (r.close c) ((r.renumber values.length).close d) := by
  obtain ⟨phase, columns, rowsFetched, recordsAffected⟩ := r
  cases phase with
  | active statement cursor row => exact ⟨rfl, matched_release h⟩
  | exhausted => exact ⟨rfl, h⟩
  | closed => exact ⟨rfl, h⟩

/-- A later reader is given up as the first one is. -/
theorem matched_dispose_renumber (r : Reader Scripted) (h : Matched (IsAfter calls values) c d) :
    Matched (IsAfter calls values) (r.dispose c) ((r.renumber values.length).dispose d) := by
  obtain ⟨phase, columns, rowsFetched, recordsAffected⟩ := r
  cases phase with
  | active statement cursor row => exact matched_release (h.emit _ _)
  | exhausted => exact h
  | closed => exact h

/-! ## Values -/

/-- The places of a later reader are the renumbered ones. -/
theorem place_renumber (n : Nat) (r : Reader Scripted) (i : Nat) :
    (r.renumber n).place i = (r.place i).map (renumberPlace n) := by
  obtain ⟨phase, columns, rowsFetched, recordsAffected⟩ := r
  cases phase with
  | active statement cursor row =>
    cases row with
    | none => rfl
    | some row =>
      simp only [place, row?, renumber, Option.map_some, Option.bind_some, List.getElem?_map]
      cases row[i]? <;> rfl
  | exhausted => rfl
  | closed => rfl

/-- A later reader has the columns of the first. -/
theorem column_renumber (n : Nat) (r : Reader Scripted) (i : Nat) : (r.renumber n).column i = r.column i := by
  obtain ⟨phase, columns, rowsFetched, recordsAffected⟩ := r
  cases phase <;> rfl

/-- A reader whose datums are known tells the same values, and nothing changes on the connections. -/
theorem value_renumber (hknown : RowHas Known r c.executor) (h : Matched (IsAfter calls values) c d) (i : Nat) :
    ((r.renumber values.length).value i d).1 = (r.value i c).1 := by
  have hplaces := place_renumber values.length r i
  cases hcolumn : r.column i with
  | error e =>
    simp only [value, column_renumber, hcolumn]
    rfl
  | ok column =>
    cases hplace : r.place i with
    | error e =>
      rw [hplace] at hplaces
      simp only [value, column_renumber, hcolumn, hplace, hplaces]
      rfl
    | ok p =>
      rw [hplace] at hplaces
      obtain ⟨row, hrow, hp⟩ := exists_row_of_place hplace
      have hexecutor : d.executor = c.executor.after calls values := h.executor
      -- The datum is known, so that it stands for the same value behind those of the past.
      have hread : (Executor.readDatum (renumberPlace values.length p).datum column.oid d.executor).1 =
          (Executor.readDatum p.datum column.oid c.executor).1 :=
        hexecutor ▸ readDatum_after (hknown row hrow p hp) column.oid
      have hflag : (renumberPlace values.length p).isNull = p.isNull := rfl
      simp only [value, column_renumber, hcolumn, hplace, hplaces, Except.map, hflag]
      cases p.isNull with
      | true => rfl
      | false =>
        exact (Connection.fst_readDatum _ _ d).trans
          ((congrArg _ hread).trans (Connection.fst_readDatum _ _ c).symm)

/-- Whatever is told is told on both connections, and nothing changes on them. -/
theorem exists_value_renumber (hknown : RowHas Known r c.executor) (h : Matched (IsAfter calls values) c d)
    (i : Nat) : ∃ told, r.value i c = (told, c) ∧ (r.renumber values.length).value i d = (told, d) := by
  have hsame : (r.value i c).2 = c := eq_of_looked (.value .none i)
  have hsame' : ((r.renumber values.length).value i d).2 = d := eq_of_looked (.value .none i)
  exact ⟨(r.value i c).1, Prod.ext rfl hsame, Prod.ext (value_renumber hknown h i) hsame'⟩

/-- Typed readings of a later reader answer what those of the first do. -/
theorem exists_get_renumber (hknown : RowHas Known r c.executor) (h : Matched (IsAfter calls values) c d)
    (t : Target) (i : Nat) :
    ∃ read, r.get t i c = (read, c) ∧ (r.renumber values.length).get t i d = (read, d) := by
  obtain ⟨told, hvalue, hvalue'⟩ := exists_value_renumber hknown h i
  have hlabel : (r.renumber values.length).label i = r.label i := by
    rw [label, label, columnName, columnName, column_renumber]
  cases told with
  | error e => exact ⟨.error e, Step.bind_of_error hvalue, Step.bind_of_error hvalue'⟩
  | ok v =>
    rw [get, get, hlabel, Step.bind_of_ok hvalue, Step.bind_of_ok hvalue']
    cases t.read v with
    | error cause => exact ⟨_, rfl, rfl⟩
    | ok a => exact ⟨_, rfl, rfl⟩

/-- A later reader finds a name at the same position. -/
theorem ordinal_renumber (n : Nat) (r : Reader Scripted) (name : String) :
    (r.renumber n).ordinal name = r.ordinal name := by
  obtain ⟨phase, columns, rowsFetched, recordsAffected⟩ := r
  cases phase <;> rfl

/-- A later reader tells the same state. -/
theorem state_renumber (n : Nat) (r : Reader Scripted) : (r.renumber n).state = r.state := by
  obtain ⟨phase, columns, rowsFetched, recordsAffected⟩ := r
  cases phase with
  | active statement cursor row => cases row <;> rfl
  | exhausted => rfl
  | closed => rfl

/-- A later reader finds the same cells null. -/
theorem isNull_renumber (n : Nat) (r : Reader Scripted) (i : Nat) : (r.renumber n).isNull i = r.isNull i := by
  rw [isNull, isNull, column_renumber, place_renumber]
  cases r.column i with
  | error e => rfl
  | ok column =>
    show ((r.place i).map _).map Slot.isNull = (r.place i).map Slot.isNull
    cases r.place i <;> rfl

/-- The same values are copied. -/
theorem exists_copyFrom_renumber (hknown : RowHas Known r c.executor) (h : Matched (IsAfter calls values) c d)
    (count i : Nat) (buffer : List Value) :
    ∃ outcome copied, r.copyFrom count i buffer c = (outcome, copied, c) ∧
      (r.renumber values.length).copyFrom count i buffer d = (outcome, copied, d) := by
  induction buffer generalizing i with
  | nil => exact ⟨_, _, rfl, rfl⟩
  | cons old rest ih =>
    obtain ⟨told, hvalue, hvalue'⟩ := exists_value_renumber hknown h i
    obtain ⟨outcome, copied, hrest, hrest'⟩ := ih (i + 1)
    rw [copyFrom, copyFrom]
    split
    · rw [hvalue, hvalue']
      cases told with
      | error e => exact ⟨_, _, rfl, rfl⟩
      | ok v =>
        simp only [hrest, hrest']
        exact ⟨_, _, rfl, rfl⟩
    · exact ⟨_, _, rfl, rfl⟩

/-! ## Requests -/

/-- A reader whose datums are known answers a request as it would without the past. -/
theorem answer_renumber (hknown : RowHas Known r c.executor) (h : Matched (IsAfter calls values) c d)
    (request : ReaderRequest) :
    ((r.renumber values.length).answer d request).1 = (r.answer c request).1 ∧
      IsLater calls values (r.answer c request).2 ((r.renumber values.length).answer d request).2 := by
  -- Two requests move the reader, and the others only look at it.
  have hmoved : ((r.renumber values.length).read d).1 = (r.read c).1 ∧
      IsLater calls values (r.read c).2 ((r.renumber values.length).read d).2 := by
    obtain ⟨b, _, x, y, hok, hok', rfl, hlater⟩ | ⟨e, x, y, herror, herror', hlater⟩ := agreeing_read_renumber r h
    · rw [hok, hok']
      exact ⟨rfl, hlater⟩
    · rw [herror, herror']
      exact ⟨rfl, hlater⟩
  cases request with
  | read => exact ⟨congrArg (ReaderReply.ofExcept .flag) hmoved.1, hmoved.2⟩
  | nextResult => exact ⟨congrArg (ReaderReply.ofExcept .flag) hmoved.1, hmoved.2⟩
  | close => exact ⟨rfl, isLater_close r h⟩
  | state => exact ⟨congrArg ReaderReply.state (state_renumber _ r), rfl, h⟩
  | ordinal name => exact ⟨congrArg (ReaderReply.ofExcept .position) (ordinal_renumber _ r name), rfl, h⟩
  | columnName i => exact ⟨by simp only [answer, columnName, column_renumber], rfl, h⟩
  | columnType i => exact ⟨by simp only [answer, columnType, column_renumber], rfl, h⟩
  | columnTypeName i => exact ⟨by simp only [answer, columnTypeName, column_renumber], rfl, h⟩
  | isNull i => exact ⟨congrArg (ReaderReply.ofExcept .flag) (isNull_renumber _ r i), rfl, h⟩
  | value i =>
    obtain ⟨told, hvalue, hvalue'⟩ := exists_value_renumber hknown h i
    rw [answer, answer, tell, tell, hvalue, hvalue']
    exact ⟨rfl, rfl, h⟩
  | get t i =>
    obtain ⟨read, hget, hget'⟩ := exists_get_renumber hknown h t i
    rw [answer, answer, tell, tell, hget, hget']
    exact ⟨rfl, rfl, h⟩
  | getByName t name =>
    rw [answer, answer, tell, tell, getByName, getByName, ordinal_renumber]
    cases r.ordinal name with
    | error e => exact ⟨rfl, rfl, h⟩
    | ok i =>
      obtain ⟨read, hget, hget'⟩ := exists_get_renumber hknown h t i
      simp only [hget, hget']
      exact ⟨trivial, rfl, h⟩
  | values n =>
    have hcount : (r.renumber values.length).fieldCount = r.fieldCount := rfl
    obtain ⟨outcome, copied, hcopy, hcopy'⟩ := exists_copyFrom_renumber hknown h
      (min (List.replicate n Value.null).length r.fieldCount) 0 (List.replicate n .null)
    simp only [answer, Reader.values, hcount, hcopy, hcopy']
    cases outcome with
    | error e => exact ⟨rfl, rfl, h⟩
    | ok => exact ⟨rfl, rfl, h⟩

/-- A reader whose datums are known answers all requests as it would without the past, and makes the same calls. -/
theorem answerAll_renumber (hknown : RowHas Known r c.executor) (h : Matched (IsAfter calls values) c d)
    (requests : List ReaderRequest) :
    ((r.renumber values.length).answerAll d requests).1 = (r.answerAll c requests).1 ∧
      IsLater calls values (r.answerAll c requests).2 ((r.renumber values.length).answerAll d requests).2 := by
  induction requests generalizing r c d with
  | nil => exact ⟨rfl, rfl, h⟩
  | cons request rest ih =>
    obtain ⟨hreply, hreader, hconnection⟩ := answer_renumber hknown h request
    obtain ⟨hreplies, hlater⟩ := ih (hknown.answer ofPlaces_known request) hconnection
    simp only [answerAll, hreply, hreader]
    exact ⟨congrArg _ hreplies, hlater⟩

/-! ## Executors that differ in their past -/

/-- Without a row there is nothing to renumber. -/
theorem renumber_of_row? (h : r.row? = none) (n : Nat) : r.renumber n = r := by
  obtain ⟨phase, columns, rowsFetched, recordsAffected⟩ := r
  cases phase with
  | active statement cursor row =>
    obtain rfl : row = none := h
    rfl
  | exhausted => rfl
  | closed => rfl

/-- A reader without a row yet does the same on executors that differ in the calls made and the values taken in before:
it gives the same answers and makes the same calls until it is given up, and the executors differ as before. -/
theorem answerAll_of_fresh_eq (hrow : r.row? = none) (hfresh : c.executor.fresh = d.executor.fresh)
    (hoptions : c.options = d.options) (requests : List ReaderRequest) :
    let x := r.answerAll c requests
    let y := r.answerAll d requests
    x.1 = y.1 ∧ (x.2.1.dispose x.2.2).executor.fresh = (y.2.1.dispose y.2.2).executor.fresh ∧
      ∃ calls, (x.2.1.dispose x.2.2).executor.calls = c.executor.calls ++ calls ∧
        (y.2.1.dispose y.2.2).executor.calls = d.executor.calls ++ calls := by
  -- Both are compared with the executor that has no past.
  let base : Connection Scripted := { c with executor := c.executor.fresh }
  have hlater : ∀ e : Connection Scripted, e.executor.fresh = base.executor → e.options = base.options →
      (r.answerAll e requests).1 = (r.answerAll base requests).1 ∧
        ((r.answerAll e requests).2.1.dispose (r.answerAll e requests).2.2).executor
          = ((r.answerAll base requests).2.1.dispose (r.answerAll base requests).2.2).executor.after
            e.executor.calls e.executor.datums := by
    intro e hsame hoptions
    have hmatched : Matched (IsAfter e.executor.calls e.executor.datums) base e := by
      refine ⟨?_, hoptions.symm⟩
      rw [← hsame]
      exact isAfter_fresh e.executor
    have hanswered := answerAll_renumber (rowHas_of_row? hrow) hmatched requests
    rw [renumber_of_row? hrow] at hanswered
    obtain ⟨hreplies, hreader, hconnection⟩ := hanswered
    refine ⟨hreplies, ?_⟩
    rw [hreader]
    exact (matched_dispose_renumber _ hconnection).executor
  obtain ⟨hreplies, hexecutor⟩ := hlater c rfl rfl
  obtain ⟨hreplies', hexecutor'⟩ := hlater d hfresh.symm hoptions.symm
  refine ⟨hreplies.trans hreplies'.symm, ?_, _, congrArg Scripted.calls hexecutor, congrArg Scripted.calls hexecutor'⟩
  rw [hexecutor, hexecutor']
  rfl

end Reader

end InProcessSql
