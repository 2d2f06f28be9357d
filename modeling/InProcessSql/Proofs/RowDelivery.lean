import InProcessSql.Proofs.StatementLog

/-!
# How rows are delivered

The results that the scripted executor has been given go to the cursors that are opened, in order, and a
reader delivers the rows of its result one by one. `Reader.Presents` says how far a reader has come with its
result: the executor has the cursor at the right row, and each place of the reader stands for the right
cell. `rows_delivered` says so of all readers of queries, whatever the connection and the command have been
asked for before. Which result a reader gets is told by the recorded calls: by how many of them have opened a cursor.
-/

namespace InProcessSql

open Scripted

/-- Every row has a cell for each column. -/
def ResultSet.IsRectangular (rs : ResultSet) : Prop := ∀ row ∈ rs.rows, row.length = rs.columns.size

theorem ResultSet.isRectangular_empty : ({} : ResultSet).IsRectangular := by
  intro row hrow
  cases hrow

namespace Reader

/-! ## Fetching the next row -/

/-- The executor has the cursor open over the result, with the next and the current row at these positions,
and no fetch is going to fail. -/
structure CursorAt (rs : ResultSet) (cursor : Scripted.Cursor) (next : Nat) (current : Option Nat)
    (s : Scripted) : Prop where
  cursor : s.cursor = some ⟨cursor.id, rs, next, current⟩
  waiting? : s.waiting? .fetch = none

variable {rs : ResultSet} {cursor : Scripted.Cursor} {j : Nat} {current : Option Nat} {s t : Scripted}

/-- Where cursor and failures stay, so does the position. -/
theorem CursorAt.of_eq (h : CursorAt rs cursor j current s) (hcursor : t.cursor = s.cursor)
    (hfailures : t.failures = s.failures) : CursorAt rs cursor j current t := by
  refine ⟨hcursor.trans h.cursor, ?_⟩
  rw [Scripted.waiting?, hfailures]
  exact h.waiting?

/-- A fetch makes the next row the current one, or leaves no current row. -/
theorem CursorAt.fetch (h : CursorAt rs cursor j current s) {result : Except Error Unit}
    (hfetch : Executor.fetch cursor s = (result, t)) :
    result = .ok () ∧ CursorAt rs cursor (if j < rs.rows.length then j + 1 else j)
      (if j < rs.rows.length then some j else none) t := by
  have hfetch : Scripted.fetch cursor s = (result, t) := hfetch
  have hrecorded : (s.record .fetch).cursor = some ⟨cursor.id, rs, j, current⟩ := h.cursor
  rw [fetch_eq, guarded_of_none h.waiting?, moveCursor, hrecorded] at hfetch
  simp only [if_true, OpenCursor.advance] at hfetch
  cases hfetch
  refine ⟨rfl, ?_, h.waiting?⟩
  by_cases hj : j < rs.rows.length
  · simp only [if_pos hj]
  · simp only [if_neg hj]

/-- The executor tells of one row or none, and of the columns of the result. -/
theorem CursorAt.dimensions (h : CursorAt rs cursor j current s) {rows count : Nat}
    (hsize : Executor.dimensions s = ((rows, count), t)) :
    (rows = if current.isSome then 1 else 0) ∧ count = rs.columns.size ∧ CursorAt rs cursor j current t := by
  have hsize : Scripted.dimensions s = ((rows, count), t) := hsize
  rw [Scripted.dimensions, h.cursor] at hsize
  cases hsize
  exact ⟨rfl, rfl, h.of_eq rfl rfl⟩

/-- All columns of the result are told. -/
theorem CursorAt.columns (h : CursorAt rs cursor j current s) {cs : Columns}
    (hcolumns : Executor.columns rs.columns.size s = (.ok cs, t)) :
    cs = rs.columns ∧ CursorAt rs cursor j current t := by
  have hcolumns : Scripted.columns rs.columns.size s = (.ok cs, t) := hcolumns
  have hrecorded : (s.record .columns).cursor = some ⟨cursor.id, rs, j, current⟩ := h.cursor
  simp only [Scripted.columns, Step.bind_apply, Step.update_apply, Step.total_apply, hrecorded,
    Option.map_some, Option.getD_some] at hcolumns
  cases hcolumns
  exact ⟨by simp [Columns.size], h.of_eq rfl rfl⟩

/-- The places that the current row is written over then stand for its cells. -/
theorem CursorAt.currentRow {i : Nat} {row : List Value} (h : CursorAt rs cursor j (some i) s)
    (hi : rs.rows[i]? = some row) {places : List (Executor.Place Scripted)} {written : List Place}
    (hlength : row.length = places.length) (hrow : Executor.currentRow places s = (written, t)) :
    List.Forall₂ (Stands t) row written ∧ CursorAt rs cursor j (some i) t := by
  have hrow : Scripted.currentRow places s = (written, t) := hrow
  have hcurrent : (s.record .currentRow).currentRow? = some row := by
    have hrecorded : (s.record .currentRow).cursor = some ⟨cursor.id, rs, j, some i⟩ := h.cursor
    rw [currentRow?, hrecorded]
    exact hi
  rw [Scripted.currentRow] at hrow
  simp only [hcurrent] at hrow
  have hstands := stands_fillPlaces hlength (s.record .currentRow)
  have htaken := takesIn_fillPlaces row places (s.record .currentRow)
  rw [hrow] at hstands htaken
  obtain ⟨more, rfl⟩ : TakesIn (s.record .currentRow) t := htaken
  exact ⟨hstands, h.of_eq rfl rfl⟩

/-- Fetching finds the next row of the result and writes its cells over the places, or finds that there is
none. -/
theorem row_of_fetching (hrect : rs.IsRectangular) (h : CursorAt rs cursor j current s)
    {known : Option Columns} {previous : Option (List (Executor.Place Scripted))}
    {result : Except Error (Option (Columns × List (Executor.Place Scripted)))}
    (hknown : ∀ cs, known = some cs → cs = rs.columns)
    (hprevious : ∀ places, previous = some places → places.length = rs.columns.size)
    (hfetching : @Fetching Scripted _ cursor known previous s result t) :
    (rs.rows.length ≤ j ∧ result = .ok none) ∨
      ∃ row places, rs.rows[j]? = some row ∧ result = .ok (some (rs.columns, places)) ∧
        List.Forall₂ (Stands t) row places ∧ CursorAt rs cursor (j + 1) (some j) t := by
  have hplaces : (placesFor previous rs.columns).length = rs.columns.size := by
    rw [placesFor]
    cases hp : previous with
    | none => simp
    | some places => exact hprevious places hp
  by_cases hj : j < rs.rows.length
  · right
    have hrow : rs.rows[j]? = some rs.rows[j] := List.getElem?_eq_getElem hj
    have hlength := (hrect rs.rows[j] (List.getElem_mem hj)).trans hplaces.symm
    have hfetched : ∀ {result u}, Executor.fetch cursor s = (result, u) →
        result = .ok () ∧ CursorAt rs cursor (j + 1) (some j) u := by
      intro result u hfetch
      simpa only [if_pos hj] using h.fetch hfetch
    -- A current row is reported, so that the cells are written over the places of this or the last row.
    cases hfetching with
    | fetchFailed hfetch => cases (hfetched hfetch).1
    | noRow hfetch hsize => cases ((hfetched hfetch).2.dimensions hsize).1
    | columnsFailed hfetch hsize hnone hcolumns => exact absurd hcolumns (columns_ne_error _ _ _ _)
    | firstRow hfetch hsize hnone hcolumns hwritten =>
      obtain ⟨-, rfl, hat⟩ := (hfetched hfetch).2.dimensions hsize
      obtain ⟨rfl, hat⟩ := hat.columns hcolumns
      obtain ⟨hstands, hat⟩ := hat.currentRow hrow hlength hwritten
      exact ⟨_, _, hrow, rfl, hstands, hat⟩
    | laterRow hfetch hsize hsome hwritten =>
      obtain ⟨-, -, hat⟩ := (hfetched hfetch).2.dimensions hsize
      obtain rfl := hknown _ hsome
      obtain ⟨hstands, hat⟩ := hat.currentRow hrow hlength hwritten
      exact ⟨_, _, hrow, rfl, hstands, hat⟩
  · left
    have hfetched : ∀ {result u}, Executor.fetch cursor s = (result, u) →
        result = .ok () ∧ CursorAt rs cursor j none u := by
      intro result u hfetch
      simpa only [if_neg hj] using h.fetch hfetch
    refine ⟨by omega, ?_⟩
    -- No current row is reported.
    cases hfetching with
    | fetchFailed hfetch => cases (hfetched hfetch).1
    | noRow hfetch hsize => rfl
    | columnsFailed hfetch hsize => cases ((hfetched hfetch).2.dimensions hsize).1
    | firstRow hfetch hsize => cases ((hfetched hfetch).2.dimensions hsize).1
    | laterRow hfetch hsize => cases ((hfetched hfetch).2.dimensions hsize).1

/-! ## Presenting a result -/

/-- How far a reader of the result has come after it has been asked for so many rows. -/
inductive Presents (rs : ResultSet) : Nat → Reader Scripted → Scripted → Prop
  | beforeRows {r : Reader Scripted} {s : Scripted} {statement : Prepared Scripted}
    {cursor : Scripted.Cursor} (hphase : r.phase = .active statement cursor none)
    (hcolumns : r.columns = none) (hfetched : r.rowsFetched = 0) (hat : CursorAt rs cursor 0 none s) :
    Presents rs 0 r s
  | atRow {i : Nat} {row : List Value} {places : List Place} {r : Reader Scripted} {s : Scripted}
    {statement : Prepared Scripted} {cursor : Scripted.Cursor} (hrow : rs.rows[i]? = some row)
    (hphase : r.phase = .active statement cursor (some places)) (hcolumns : r.columns = some rs.columns)
    (hstands : List.Forall₂ (Stands s) row places) (hfetched : r.rowsFetched = i + 1)
    (hat : CursorAt rs cursor (i + 1) (some i) s) : Presents rs (i + 1) r s
  | atEnd {n : Nat} {r : Reader Scripted} {s : Scripted} (hn : rs.rows.length < n)
    (hinactive : ¬ r.IsActive) (hfetched : r.rowsFetched = rs.rows.length) : Presents rs n r s

/-- A reader has counted the rows that it was asked for, as far as there are any. -/
theorem Presents.rowsFetched_eq {n : Nat} {r : Reader Scripted} (h : Presents rs n r s) :
    r.rowsFetched = min n rs.rows.length := by
  cases h with
  | beforeRows _ _ hfetched => omega
  | atRow hrow _ _ _ hfetched =>
    have hi := (List.getElem?_eq_some_iff.1 hrow).1
    omega
  | atEnd hn _ hfetched => omega

/-- What an active reader does next, if the executor has its cursor where the reader is. -/
theorem presents_read_of_active (hrect : rs.IsRectangular) {r : Reader Scripted} {c : Connection Scripted}
    {statement : Prepared Scripted} {row : Option (List Place)} (hphase : r.phase = .active statement cursor row)
    (hknown : ∀ cs, r.columns = some cs → cs = rs.columns)
    (hprevious : ∀ places, row = some places → places.length = rs.columns.size)
    (hfetched : r.rowsFetched = j) (hj : j ≤ rs.rows.length) (hat : CursorAt rs cursor j current c.executor) :
    (r.read c).1 = .ok (decide (j < rs.rows.length)) ∧
      Presents rs (j + 1) (r.read c).2.1 (r.read c).2.2.executor := by
  have hfetching := row_of_fetching hrect hat hknown hprevious (fetching_fetchRow cursor r.columns row c)
  rcases r.read_cases c with ⟨hinactive, -⟩ | ⟨statement', cursor', row', hphase', hread⟩
  · exact absurd ⟨statement, cursor, row, hphase⟩ hinactive
  rw [hphase] at hphase'
  cases hphase'
  -- The cursor is where the reader is, so that a row is found exactly while there is one.
  rcases hread with ⟨cs, next, c', hfetch, hread⟩ | ⟨c', hfetch, hread⟩ | ⟨e, c', hfetch, hread⟩
  · rw [hfetch] at hfetching
    rcases hfetching with ⟨-, hnone⟩ | ⟨cells, places, hcells, hsome, hstands, hat⟩
    · cases hnone
    · cases hsome
      have hlt := (List.getElem?_eq_some_iff.1 hcells).1
      rw [hread, decide_eq_true hlt]
      exact ⟨rfl, .atRow hcells rfl rfl hstands (congrArg (· + 1) hfetched) hat⟩
  · rw [hfetch] at hfetching
    rcases hfetching with ⟨hle, -⟩ | ⟨cells, places, -, hsome, -⟩
    · rw [hread, decide_eq_false (by omega)]
      exact ⟨rfl, .atEnd (by omega) (not_isActive_exhausted r) (by show r.rowsFetched = _; omega)⟩
    · cases hsome
  · rw [hfetch] at hfetching
    rcases hfetching with ⟨-, hnone⟩ | ⟨cells, places, -, hsome, -⟩
    · cases hnone
    · cases hsome

/-- Reading answers whether there is a next row of the result, and presents it. -/
theorem Presents.read (hrect : rs.IsRectangular) {n : Nat} {r : Reader Scripted} {c : Connection Scripted}
    (h : Presents rs n r c.executor) :
    (r.read c).1 = .ok (decide (n < rs.rows.length)) ∧
      Presents rs (n + 1) (r.read c).2.1 (r.read c).2.2.executor := by
  cases h with
  | beforeRows hphase hcolumns hfetched hat =>
    refine presents_read_of_active hrect hphase ?_ ?_ hfetched (Nat.zero_le _) hat
    · intro cs hcs
      rw [hcolumns] at hcs
      cases hcs
    · intro places hplaces
      cases hplaces
  | @atRow i row places _ _ _ _ hrow hphase hcolumns hstands hfetched hat =>
    obtain ⟨hi, rfl⟩ := List.getElem?_eq_some_iff.1 hrow
    refine presents_read_of_active hrect hphase ?_ ?_ hfetched hi hat
    · intro cs hcs
      exact Option.some.inj (hcs.symm.trans hcolumns)
    · intro places' hplaces
      obtain rfl := Option.some.inj hplaces
      rw [← hstands.length_eq]
      exact hrect rs.rows[i] (List.getElem_mem hi)
  | atEnd hn hinactive hfetched =>
    rcases r.read_cases c with ⟨-, hread⟩ | ⟨statement, cursor, row, hphase, -⟩
    · rw [hread, decide_eq_false (by omega)]
      exact ⟨rfl, .atEnd (by omega) hinactive hfetched⟩
    · exact absurd ⟨statement, cursor, row, hphase⟩ hinactive

/-! ## Values of the current row -/

/-- Reading a datum leaves the executor as it is. -/
theorem snd_readDatum (datum : Nat) (oid : Oid) (s : Scripted) : (Scripted.readDatum datum oid s).2 = s := by
  rw [Scripted.readDatum]
  split <;> rfl

/-- Looking at values leaves the executor as it is. -/
theorem executor_of_looked {r : Reader Scripted} {c c' : Connection Scripted} (h : Looked r c c') :
    c'.executor = c.executor := by
  induction h with
  | none => rfl
  | @value c' hlooked i ih =>
    rcases r.executor_value_cases i c' with hvalue | ⟨datum, oid, hvalue⟩
    · rw [hvalue, ih]
    · rw [hvalue, ← ih]
      exact snd_readDatum datum oid c'.executor

/-- A datum that stands for a value is read as that value. -/
theorem readDatum_eq {c : Connection Scripted} {d : Nat} {v : Value}
    (h : c.executor.valueOf? d = some v) (oid : Oid) : Connection.readDatum d oid c = (.ok v, c) := by
  have hread : Executor.readDatum d oid c.executor = (.value (.ok v), c.executor) := by
    show Scripted.readDatum d oid c.executor = _
    rw [Scripted.readDatum, h]
  simp only [Connection.readDatum, Connection.onExecutor, hread]

/-- While a row is presented, its cells are the values of the reader. -/
theorem Presents.value {i k : Nat} {row : List Value} {cell : Value} {r : Reader Scripted}
    {c : Connection Scripted} (h : Presents rs (i + 1) r c.executor) (hrect : rs.IsRectangular)
    (hrow : rs.rows[i]? = some row) (hcell : row[k]? = some cell) : r.value k c = (.ok cell, c) := by
  obtain ⟨hi, hrowEq⟩ := List.getElem?_eq_some_iff.1 hrow
  cases h with
  | atEnd hn => omega
  | @atRow _ row' places _ _ statement cursor hrow' hphase hcolumns hstands =>
    obtain rfl : row' = row := Option.some.inj (hrow'.symm.trans hrow)
    obtain ⟨hk, rfl⟩ := List.getElem?_eq_some_iff.1 hcell
    have hsize : k < rs.columns.toList.length := by
      have hrowSize := hrect _ (List.getElem_mem hi)
      rw [hrowEq] at hrowSize
      show k < rs.columns.size
      omega
    have hcolumn : r.column k = .ok rs.columns.toList[k] := by
      simp [column, isClosed, hphase, hcolumns, Columns.get?, hsize]
    have hplaces : k < places.length := hstands.length_eq ▸ hk
    have hplace : r.place k = .ok places[k] := by
      simp [place, row?, hphase, hplaces]
    have hcellAt : Stands c.executor row'[k] places[k] := (List.forall₂_iff_get.1 hstands).2 k hk hplaces
    rw [Reader.value, hcolumn]
    simp only [hplace, hcellAt.isNull_eq]
    -- The datum of a null stands for nothing, and is not asked for.
    cases hnull : row'[k].isNull with
    | true => rw [Value.isNull_iff.1 hnull]; rfl
    | false => exact readDatum_eq (hcellAt.valueOf?_eq hnull) _

/-- Copying from a position on takes the cells from there. -/
theorem Presents.copyFrom {i : Nat} {row : List Value} {r : Reader Scripted} {c : Connection Scripted}
    (h : Presents rs (i + 1) r c.executor) (hrect : rs.IsRectangular) (hrow : rs.rows[i]? = some row)
    (k : Nat) (buffer : List Value) (hk : k ≤ row.length) (hlong : row.length ≤ k + buffer.length) :
    r.copyFrom row.length k buffer c
      = (.ok (), row.drop k ++ buffer.drop (row.length - k), c) := by
  induction buffer generalizing k with
  | nil =>
    obtain rfl : k = row.length := by simp at hlong; omega
    simp [Reader.copyFrom]
  | cons old rest ih =>
    rw [Reader.copyFrom]
    by_cases hlt : k < row.length
    · have hvalue := h.value hrect hrow (List.getElem?_eq_getElem hlt)
      have hmore := ih (k + 1) hlt (by simp at hlong; omega)
      have hdrop : row.length - k = (row.length - (k + 1)) + 1 := by omega
      simp only [if_pos hlt, hvalue, hmore]
      rw [List.drop_eq_getElem_cons hlt, hdrop, List.drop_succ_cons, List.cons_append]
    · obtain rfl : k = row.length := by omega
      simp

/-- A row is copied as a whole into a buffer that is long enough. -/
theorem Presents.values {i : Nat} {row : List Value} {r : Reader Scripted} {c : Connection Scripted}
    (h : Presents rs (i + 1) r c.executor) (hrect : rs.IsRectangular) (hrow : rs.rows[i]? = some row)
    {buffer : List Value} (hlong : row.length ≤ buffer.length) :
    r.values buffer c = (.ok row.length, row ++ buffer.drop row.length, c) := by
  obtain ⟨hi, hrowEq⟩ := List.getElem?_eq_some_iff.1 hrow
  have hcopied := h.copyFrom hrect hrow 0 buffer (Nat.zero_le _) (by omega)
  have hcount : r.fieldCount = row.length := by
    cases h with
    | atEnd hn => omega
    | atRow _ _ hcolumns =>
      rw [fieldCount, hcolumns, ← hrowEq, hrect _ (List.getElem_mem hi)]
      rfl
  simp only [Reader.values, hcount, Nat.min_eq_right hlong, hcopied]
  rfl

/-! ## Requests to the reader -/

/-- Requests other than to close keep presenting the result, a row further with each move. -/
theorem Presents.answer (hrect : rs.IsRectangular) {n : Nat} {r : Reader Scripted} {c : Connection Scripted}
    (h : Presents rs n r c.executor) {request : ReaderRequest} (hrequest : request ≠ .close) :
    Presents rs (n + if request.moves then 1 else 0) (r.answer c request).2.1
      (r.answer c request).2.2.executor := by
  rcases r.answer_cases c request with ⟨hmoves, hread⟩ | ⟨hclose, -⟩ | ⟨hmoves, reply, c', hlook, hlooked⟩
  · rw [hread, hmoves]
    exact (h.read hrect).2
  · exact absurd hclose hrequest
  · rw [hlook, hmoves]
    show Presents rs n r c'.executor
    rwa [executor_of_looked hlooked]

/-- Any requests but to close present the result, a row further with each move. -/
theorem Presents.answerAll (hrect : rs.IsRectangular) {n : Nat} {r : Reader Scripted}
    {c : Connection Scripted} (h : Presents rs n r c.executor) {requests : List ReaderRequest}
    (hrequests : .close ∉ requests) :
    Presents rs (n + requests.countP ReaderRequest.moves) (r.answerAll c requests).2.1
      (r.answerAll c requests).2.2.executor := by
  induction requests generalizing n r c with
  | nil => exact h
  | cons request rest ih =>
    have hstep := h.answer hrect (List.ne_of_not_mem_cons hrequests).symm
    have hmore := ih hstep (List.not_mem_of_not_mem_cons hrequests)
    rw [List.countP_cons, Nat.add_comm (rest.countP _), ← Nat.add_assoc]
    exact hmore

/-- The requests that copy so many rows of a width, and then ask for one more. -/
def readingRows (width count : Nat) : List ReaderRequest :=
  (List.replicate count [.read, .values width]).flatten ++ [.read]

/-- The replies that tell the rows, and then that there is no other. -/
def tellingRows (rows : List (List Value)) : List ReaderReply :=
  rows.flatMap (fun row => [.flag true, .row row.length row]) ++ [.flag false]

/-- Reading to the end tells the rows of the result that are left, in order. -/
theorem Presents.answerAll_readingRows (hrect : rs.IsRectangular) {n : Nat} {r : Reader Scripted}
    {c : Connection Scripted} (h : Presents rs n r c.executor) (hn : n ≤ rs.rows.length)
    {rows : List (List Value)} (hrows : rs.rows.drop n = rows) :
    ∃ r' c', r.answerAll c (readingRows rs.columns.size rows.length) = (tellingRows rows, r', c') ∧
      r'.rowsFetched = rs.rows.length := by
  induction rows generalizing n r c with
  | nil =>
    obtain ⟨hflag, hmore⟩ := h.read hrect
    have hend : rs.rows.length ≤ n := List.drop_eq_nil_iff.1 hrows
    rw [decide_eq_false (by omega)] at hflag
    refine ⟨(r.read c).2.1, (r.read c).2.2, ?_, by rw [hmore.rowsFetched_eq]; omega⟩
    show ([ReaderReply.ofExcept .flag (r.read c).1], (r.read c).2) = _
    rw [hflag]
    rfl
  | cons row rows ih =>
    have hlt : n < rs.rows.length := by
      by_contra hge
      rw [List.drop_eq_nil_of_le (by omega)] at hrows
      cases hrows
    rw [List.drop_eq_getElem_cons hlt] at hrows
    obtain ⟨hrow, hrows⟩ := List.cons.inj hrows
    obtain ⟨hflag, hmore⟩ := h.read hrect
    rw [decide_eq_true hlt] at hflag
    have hcells : rs.rows[n]? = some row := List.getElem?_eq_some_iff.2 ⟨hlt, hrow⟩
    have hwidth : row.length = rs.columns.size := hrow ▸ hrect _ (List.getElem_mem hlt)
    have hcopied : (r.read c).2.1.values (List.replicate rs.columns.size .null) (r.read c).2.2
        = (.ok row.length, row, (r.read c).2.2) := by
      rw [hmore.values hrect hcells (by simp [hwidth])]
      simp [hwidth]
    obtain ⟨r', c', hrest, hfetched⟩ := ih hmore hlt hrows
    refine ⟨r', c', ?_, hfetched⟩
    -- One row is read and copied, and the rest are told by induction.
    have hread : r.answer c .read = (.flag true, (r.read c).2) := by
      show (ReaderReply.ofExcept .flag (r.read c).1, (r.read c).2) = _
      rw [hflag]
      rfl
    have hvalues : (r.read c).2.1.answer (r.read c).2.2 (.values rs.columns.size)
        = (.row row.length row, (r.read c).2) := by
      simp only [Reader.answer, hcopied]
    have hrequests : readingRows rs.columns.size (row :: rows).length
        = .read :: .values rs.columns.size :: readingRows rs.columns.size rows.length := by
      simp [readingRows, List.replicate_succ]
    rw [hrequests]
    simp only [Reader.answerAll, hread, hvalues, hrest]
    simp [tellingRows]

/-! ## Readers of queries -/

/-- The reader of a cursor that has been opened presents the next result of the executor. -/
theorem presents_of_opened {plan : Plan} {bindings : List (Value × Oid)} {r : Reader Scripted}
    (hopening : Command.Opening plan bindings s (.ok r) t) (hwaiting : s.waiting? .fetch = none) :
    Presents (s.results.headD {}) 0 r t := by
  cases hopening with
  | @opened handle places cursor u v _ hprepare hbind hopen =>
    have hprepare : Scripted.prepare plan.sql plan.oids s = (.ok handle, u) := hprepare
    have hopen : Scripted.openCursor handle places v = (.ok cursor, t) := hopen
    obtain ⟨places', v', hbound, ⟨more, htaken⟩, -⟩ := exists_bindPlaces bindings u
    cases hbind.symm.trans hbound
    rw [prepare_eq] at hprepare
    rw [openCursor_eq] at hopen
    cases next_of_guarded hprepare
    rw [htaken] at hopen
    cases next_of_guarded hopen
    exact .beforeRows rfl rfl rfl ⟨rfl, hwaiting⟩

/-- The reader of a query presents the next result of the executor. -/
theorem presents_of_executeReader {cmd cmd' : Command} {c c' : Connection Scripted} {r : Reader Scripted}
    (hquery : cmd.isQuery = true) (hwaiting : c.executor.waiting? .fetch = none)
    (hreader : cmd.executeReader c = (.ok r, cmd', c')) :
    Presents (c.executor.results.headD {}) 0 r c'.executor := by
  rw [Command.executeReader, if_pos hquery] at hreader
  rcases hplanned : cmd.prepare c with ⟨_ | plan, cmd₁, c₁⟩
  · rw [hplanned] at hreader
    cases hreader
  · have hsame : c₁.executor = c.executor := by
      rw [← Command.executor_prepare cmd c, hplanned]
    rw [hplanned] at hreader
    have hopening := Command.opening_openCursor plan cmd₁.parameters c₁.asked
    rcases Connection.opening_cases (Command.openCursor plan cmd₁.parameters) c₁ with
      ⟨-, hopen⟩ | ⟨-, ⟨r₁, c₂, hcursor, hopen⟩ | ⟨e, c₂, -, hopen⟩⟩
    · simp only [hopen] at hreader
      cases hreader
    · simp only [hopen] at hreader
      rw [hcursor] at hopening
      cases hreader
      rw [← hsame] at hwaiting ⊢
      -- The question for a context leaves results and failures as they are.
      have hpresents := presents_of_opened hopening hwaiting
      exact hpresents
    · simp only [hopen] at hreader
      cases hreader

end Reader

/-! ## Results that are taken -/

namespace Command

/-- An execution to completion takes no result. -/
theorem results_executeNonQuery (cmd : Command) (c : Connection Scripted) :
    (cmd.executeNonQuery c).2.2.executor.results = c.executor.results := by
  obtain ⟨sql, haudited⟩ := cmd.exists_audited_executeNonQuery c
  rw [haudited.results_eq, haudited.achieved_eq]
  cases (cmd.executeNonQuery c).1 <;> rfl

/-- An execution for a reader that fails has achieved nothing, and takes no result. -/
theorem results_executeReader_of_error {cmd : Command} {c : Connection Scripted} {e : Error}
    (h : (cmd.executeReader c).1 = .error e) :
    Scripted.achieved c.executor (cmd.executeReader c).2.2.executor = [] ∧
      (cmd.executeReader c).2.2.executor.results = c.executor.results := by
  obtain ⟨sql, haudited⟩ := cmd.exists_audited_executeReader c
  have hnothing : Scripted.achieved c.executor (cmd.executeReader c).2.2.executor = [] := by
    rw [haudited.achieved_eq]
    split
    · rw [h]
      rfl
    · rename_i hquery
      -- A text that is no query is run to completion, and fails as it does then.
      unfold executeReader at h
      rw [if_neg hquery] at h
      rcases hrun : cmd.executeNonQuery c with ⟨_ | n, cmd', c'⟩
      · rfl
      · rw [hrun] at h
        cases h
  refine ⟨hnothing, ?_⟩
  rw [haudited.results_eq, hnothing]
  rfl

/-- An execution for a reader of a query has opened one cursor. -/
theorem exists_achieved_executeReader {cmd cmd' : Command} {c c' : Connection Scripted} {r : Reader Scripted}
    (hquery : cmd.isQuery = true) (hreader : cmd.executeReader c = (.ok r, cmd', c')) :
    ∃ sql, Scripted.achieved c.executor c'.executor = [.opened sql] := by
  obtain ⟨sql, haudited⟩ := cmd.exists_audited_executeReader c
  have hachieved := haudited.achieved_eq
  rw [if_pos hquery, hreader] at hachieved
  exact ⟨sql, hachieved⟩

end Command

namespace Connection

/-- The cursors that a request has opened have taken the oldest results, unless it queues another. -/
theorem results_answer (c : Connection Scripted) {request : ConnectionRequest Instruction}
    (hpush : ∀ rs, request ≠ .instruct (.result rs)) :
    (answer follow c request).2.executor.results = c.executor.results.drop
      ((Scripted.achieved c.executor (answer follow c request).2.executor).countP Achievement.isOpened) := by
  by_cases hrequest : ∃ instruction, request = .instruct instruction
  · obtain ⟨instruction, rfl⟩ := hrequest
    simp only [answer, achieved_follow]
    cases instruction with
    | result rs => exact absurd rfl (hpush rs)
    | affected | fail | ready => rfl
  · obtain ⟨achieved, haudited⟩ := c.exists_audited_answer (not_exists.1 hrequest)
    exact haudited.results_eq

/-- While no result is queued, the cursors that are opened take the results one by one. -/
theorem results_answerAll (c : Connection Scripted) {requests : List (ConnectionRequest Instruction)}
    (hpushes : ∀ rs, .instruct (.result rs) ∉ requests) :
    (answerAll follow c requests).2.executor.results
      = c.executor.results.drop ((c.achievements requests).countP Achievement.isOpened) := by
  induction requests generalizing c with
  | nil => rfl
  | cons request rest ih =>
    have hfirst := @results_answer c request fun rs h => hpushes rs (h ▸ List.mem_cons_self)
    have hrest := ih (answer follow c request).2 fun rs h => hpushes rs (List.mem_cons_of_mem _ h)
    rw [hfirst, List.drop_drop] at hrest
    rw [achievements, List.countP_append]
    exact hrest

end Connection

/-- The results that a connection starts with go to the cursors that it opens, in order, and an empty one to
each further cursor, whatever else is asked for in between. How many cursors have been opened is what the recorded
calls have achieved. What runs to completion takes no result, and neither does an execution that fails, whether to
plan, to be accepted, to prepare or to open its cursor. A reader that has been asked for `j` rows, among
other requests, answers the next request for one exactly as the result has more than `j` rows. From the
first row on, while there are rows, its values are the cells of the `j`-th row, and the row is copied as a
whole into a buffer that is long enough. A reader that is read to the end tells all rows in order. -/
theorem rows_delivered {c₀ c c₁ c' c'' : Connection Scripted}
    {requests : List (ConnectionRequest Instruction)} {replies : List ConnectionReply}
    {cmd₀ cmd cmd' : Command} {earlier : List CommandRequest} {commandReplies : List CommandReply}
    {r r' : Reader Scripted} {asked : List ReaderRequest} {readerReplies : List ReaderReply}
    (hrect : ∀ rs ∈ c₀.executor.results, rs.IsRectangular)
    (hpushes : ∀ rs, .instruct (.result rs) ∉ requests)
    (hconnection : Connection.answerAll follow c₀ requests = (replies, c))
    (hcommand : cmd₀.answerAll c earlier = (commandReplies, cmd, c₁))
    (hquery : cmd.isQuery = true) (hwaiting : c₁.executor.waiting? .fetch = none)
    (hreader : cmd.executeReader c₁ = (.ok r, cmd', c'))
    (hasked : r.answerAll c' asked = (readerReplies, r', c'')) (hclose : .close ∉ asked) :
    let achieved := c₀.achievements requests ++ Scripted.achieved c.executor c₁.executor
    let rs := c₀.executor.results.getD (achieved.countP Achievement.isOpened) {}
    let j := asked.countP ReaderRequest.moves
    c₁.executor.results = c₀.executor.results.drop (achieved.countP Achievement.isOpened) ∧
      (∃ sql, Scripted.achieved c₁.executor c'.executor = [.opened sql]) ∧
      (∀ (cmd : Command) (c : Connection Scripted),
        (cmd.executeNonQuery c).2.2.executor.results = c.executor.results) ∧
      (∀ (cmd : Command) (c : Connection Scripted) (e : Error), (cmd.executeReader c).1 = .error e →
        Scripted.achieved c.executor (cmd.executeReader c).2.2.executor = [] ∧
          (cmd.executeReader c).2.2.executor.results = c.executor.results) ∧
      (r'.read c'').1 = .ok (decide (j < rs.rows.length)) ∧ r'.rowsFetched = min j rs.rows.length ∧
      (∀ row, 0 < j → rs.rows[j - 1]? = some row →
        (∀ k cell, row[k]? = some cell → r'.value k c'' = (.ok cell, c'')) ∧
          ∀ buffer, row.length ≤ buffer.length →
            r'.values buffer c'' = (.ok row.length, row ++ buffer.drop row.length, c'')) ∧
      ∃ r₃ c₃, r.answerAll c' (Reader.readingRows rs.columns.size rs.rows.length)
          = (Reader.tellingRows rs.rows, r₃, c₃) ∧ r₃.rowsFetched = rs.rows.length := by
  intro achieved rs j
  have hresults : c₁.executor.results = c₀.executor.results.drop (achieved.countP Achievement.isOpened) := by
    have hbefore := c₀.results_answerAll hpushes
    obtain ⟨_, haudited⟩ := cmd₀.exists_audited_answerAll c earlier
    have hafter := haudited.results_eq
    rw [hconnection] at hbefore
    rw [hcommand] at hafter
    rw [hafter, hbefore, List.drop_drop, ← List.countP_append]
  -- The cursor takes the first result that is left then.
  have hrs : c₁.executor.results.headD {} = rs := by
    rw [hresults, List.headD_eq_head?_getD, List.head?_drop, ← List.getD_eq_getElem?_getD]
  have hrect : rs.IsRectangular := by
    show (c₀.executor.results.getD _ {}).IsRectangular
    rw [List.getD_eq_getElem?_getD]
    cases hfound : c₀.executor.results[achieved.countP Achievement.isOpened]? with
    | none => exact ResultSet.isRectangular_empty
    | some found => exact hrect found (List.mem_of_getElem? hfound)
  have hpresents := Reader.presents_of_executeReader hquery hwaiting hreader
  rw [hrs] at hpresents
  have hreached : Reader.Presents rs j r' c''.executor := by
    have hanswered := hpresents.answerAll hrect hclose
    rw [hasked, Nat.zero_add] at hanswered
    exact hanswered
  refine ⟨hresults, Command.exists_achieved_executeReader hquery hreader, Command.results_executeNonQuery,
    fun _ _ _ => Command.results_executeReader_of_error, (hreached.read hrect).1, hreached.rowsFetched_eq, ?_,
    hpresents.answerAll_readingRows hrect (Nat.zero_le _) rfl⟩
  intro row hj hrow
  have hrowAt : Reader.Presents rs (j - 1 + 1) r' c''.executor := by
    rwa [Nat.sub_add_cancel hj]
  constructor
  · intro k cell hcell
    exact hrowAt.value hrect hrow hcell
  · intro buffer hlong
    exact hrowAt.values hrect hrow hlong

/-- A connection with results for two cursors, over which the next cursor fails to open. -/
def connectionToTwoResults : Connection Scripted :=
  { executor := {
      results := [⟨⟨[⟨"n", 23⟩]⟩, [[.int4 1], [.int4 2]]⟩,
        ⟨⟨[⟨"s", 25⟩, ⟨"n", 23⟩]⟩, [[.text "a", .null], [.null, .int4 7]]⟩]
      failures := [⟨.openCursor, -1, "no cursor"⟩] } }

/-- A reader of the second result, after a cursor that could not be opened and a reader that was given up. -/
theorem second_result_delivered :
    ∃ (c c₁ c' c'' : Connection Scripted) (replies : List ConnectionReply) (cmd cmd' : Command)
      (commandReplies : List CommandReply) (r r' : Reader Scripted) (readerReplies : List ReaderReply),
      Connection.answerAll follow connectionToTwoResults
        [.command "select n" [.reader [.read], .reader [.read, .value 0]]] = (replies, c) ∧
      Command.answerAll { text := "select s, n" } c [.nonQuery] = (commandReplies, cmd, c₁) ∧
      cmd.isQuery = true ∧ cmd.executeReader c₁ = (.ok r, cmd', c') ∧
      r.answerAll c' [.read, .value 1, .isNull 0, .read] = (readerReplies, r', c'') ∧
      c₁.executor.results = connectionToTwoResults.executor.results.drop 1 ∧
      (r'.read c'').1 = .ok false ∧ r'.rowsFetched = 2 ∧
      r'.value 1 c'' = (.ok (.int4 7), c'') ∧ r'.value 0 c'' = (.ok .null, c'') ∧
      r'.values [.null, .null, .bool true] c'' = (.ok 2, [.null, .int4 7, .bool true], c'') := by
  have hrun : ∃ (c c₁ c' c'' : Connection Scripted) (replies : List ConnectionReply) (cmd cmd' : Command)
      (commandReplies : List CommandReply) (r r' : Reader Scripted) (readerReplies : List ReaderReply),
      (Connection.answerAll follow connectionToTwoResults
        [.command "select n" [.reader [.read], .reader [.read, .value 0]]] = (replies, c) ∧
      Command.answerAll { text := "select s, n" } c [.nonQuery] = (commandReplies, cmd, c₁) ∧
      cmd.isQuery = true ∧ cmd.executeReader c₁ = (.ok r, cmd', c') ∧
      r.answerAll c' [.read, .value 1, .isNull 0, .read] = (readerReplies, r', c'')) ∧
      c₁.executor.waiting? .fetch = none ∧
      connectionToTwoResults.achievements [.command "select n" [.reader [.read], .reader [.read, .value 0]]] ++
        Scripted.achieved c.executor c₁.executor = [.opened "select n", .executed "select s, n" 0] :=
    ⟨_, _, _, _, _, _, _, _, _, _, _, ⟨rfl, rfl, rfl, rfl, rfl⟩, rfl, rfl⟩
  obtain ⟨c, c₁, c', c'', replies, cmd, cmd', commandReplies, r, r', readerReplies,
    ⟨hconnection, hcommand, hquery, hreader, hasked⟩, hwaiting, hachieved⟩ := hrun
  have hrect : ∀ rs ∈ connectionToTwoResults.executor.results, rs.IsRectangular := by
    simp [connectionToTwoResults, ResultSet.IsRectangular, Columns.size]
  obtain ⟨hresults, -, -, -, hmore, hfetched, hcells, -⟩ := rows_delivered hrect (by simp) hconnection hcommand
    hquery hwaiting hreader hasked (by simp)
  rw [hachieved] at hresults hmore hfetched hcells
  obtain ⟨hvalues, hcopied⟩ := hcells [.null, .int4 7] (by decide) rfl
  exact ⟨c, c₁, c', c'', replies, cmd, cmd', commandReplies, r, r', readerReplies, hconnection, hcommand,
    hquery, hreader, hasked, hresults, hmore, hfetched, hvalues 1 _ rfl, hvalues 0 _ rfl,
    hcopied [.null, .null, .bool true] (by decide)⟩

end InProcessSql
