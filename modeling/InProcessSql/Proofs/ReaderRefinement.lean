import InProcessSql.Proofs.Executions
import InProcessSql.ReaderParts

/-!
# Readers part by part are readers

`ReaderParts.toReader` puts the parts of a reader together. This says what the reader is as long as the parts go
together, which `ReaderParts.Sound` states and every operation keeps. Each operation on the parts is then that of the
reader: `exists_answer?` says so of a request, `exists_answerAll?` of any number of them, and
`Command.readParts?_eq` of a whole execution for a reader, from the command to the end of the reader. None of them fails
to look up a position of a buffer.
-/

namespace InProcessSql

variable {σ : Type} [Executor σ]

namespace ReaderParts

/-! ## Parts that go together -/

/-- What the parts of a reader say of each other at any time. -/
structure Sound (p : ReaderParts σ) : Prop where
  /-- An active reader can go on, and has a row once it knows the columns. -/
  active : p.stage = .active → p.session = some ⟨true⟩ ∧ (∃ statement, p.statement = some statement) ∧
    (∃ cursor, p.cursor = some cursor) ∧ p.hasRow = p.columns.isSome
  inactive : p.stage ≠ .active → p.session = none ∧ p.statement = none ∧ p.cursor = none ∧ p.hasRow = false
  /-- Each buffer has a place for each column that is known, also after the last row. -/
  buffers : ∀ cs, p.columns = some cs → p.values.length = cs.size ∧ p.nulls.length = cs.size

def row? (p : ReaderParts σ) : Option (List (Executor.Place σ)) :=
  if p.hasRow then some (List.zipWith Slot.mk p.values p.nulls) else none

/-- The reader with these parts. -/
def toReader (p : ReaderParts σ) : Reader σ where
  phase :=
    match p.stage, p.statement, p.cursor with
    | .active, some statement, some cursor => .active statement cursor p.row?
    | .exhausted, _, _ => .exhausted
    | _, _, _ => .closed
  columns := p.columns
  rowsFetched := p.rowsFetched
  recordsAffected := p.recordsAffected

/-- The parts of a reader whose session has been ended. -/
def released (p : ReaderParts σ) (stage : Stage) : ReaderParts σ :=
  { p with session := none, statement := none, cursor := none, hasRow := false, stage }

/-- The parts of a reader after a fetch with this outcome. -/
def afterFetch (p : ReaderParts σ) : Except Error (Option (Columns × List (Executor.Place σ))) → ReaderParts σ
  | .ok (some (cs, row)) =>
    { p with
      columns := some cs
      values := row.map Slot.datum
      nulls := row.map Slot.isNull
      hasRow := true
      rowsFetched := p.rowsFetched + 1 }
  | _ => { p with hasRow := false }

variable {p : ReaderParts σ}

/-- Only an active reader has a row, and the row has a place for each column in either buffer. -/
theorem Sound.row (h : p.Sound) (hrow : p.hasRow = true) :
    p.stage = .active ∧ ∃ cs, p.columns = some cs ∧ p.values.length = cs.size ∧ p.nulls.length = cs.size := by
  have hactive : p.stage = .active := by
    refine Decidable.byContradiction fun hinactive => ?_
    rw [(h.inactive hinactive).2.2.2] at hrow
    cases hrow
  obtain ⟨-, -, -, hcolumns⟩ := h.active hactive
  rw [hrow] at hcolumns
  obtain ⟨cs, hcs⟩ := Option.isSome_iff_exists.1 hcolumns.symm
  exact ⟨hactive, cs, hcs, h.buffers cs hcs⟩

/-- The parts of a reader go together when its cursor has just been opened. -/
theorem sound_ofCursor (statement : Prepared σ) (cursor : Executor.Cursor σ) :
    (ofCursor ⟨true⟩ statement cursor).Sound where
  active _ := ⟨rfl, ⟨statement, rfl⟩, ⟨cursor, rfl⟩, rfl⟩
  inactive h := absurd rfl h
  buffers cs h := by cases h

/-- The parts of a reader without a cursor go together. -/
theorem sound_ofAffected (n : Nat) : (ofAffected n : ReaderParts σ).Sound where
  active h := by cases h
  inactive _ := ⟨rfl, rfl, rfl, rfl⟩
  buffers cs h := by cases h

/-- Releasing keeps the buffers of a reader as they are. -/
theorem Sound.released (h : p.Sound) {stage : Stage} (hstage : stage ≠ .active) : (p.released stage).Sound :=
  ⟨fun hactive => absurd hactive hstage, fun _ => ⟨rfl, rfl, rfl, rfl⟩, h.buffers⟩

/-! ## Rows of two buffers -/

section Buffers

variable {δ : Type}

/-- A row is put together again from its datums and null flags. -/
theorem zipWith_map_datum_isNull (row : List (Slot δ)) :
    List.zipWith Slot.mk (row.map Slot.datum) (row.map Slot.isNull) = row := by
  rw [List.zipWith_map, List.zipWith_self, List.map_id']

/-- A row as long as the buffer is written over all of it. -/
theorem map_append_drop_of_length_eq {α : Type} (f : Slot δ → α) {row : List (Slot δ)} {buffer : List α}
    (h : buffer.length = row.length) : row.map f ++ buffer.drop row.length = row.map f := by
  rw [List.drop_eq_nil_of_le (Nat.le_of_eq h), List.append_nil]

end Buffers

/-- A row that is taken in over places, once the columns are known or told. -/
def rowTaken (known : Option Columns) (previous : Option (List (Executor.Place σ))) (count : Nat) :
    Action σ (Option (Columns × List (Executor.Place σ))) := do
  let columns ← Reader.columnsOf known count
  let row ← Step.total (Connection.onExecutor (Executor.currentRow (Reader.placesFor previous columns)))
  return some (columns, row)

/-- Buffers of the same length are written as one row. -/
theorem writeRow_eq {n : Nat} (hvalues : p.values.length = n) (hnulls : p.nulls.length = n) (c : Connection σ) :
    let written := c.onExecutor (Executor.currentRow (List.zipWith Slot.mk p.values p.nulls))
    p.writeRow c = ({ p with values := written.1.map Slot.datum, nulls := written.1.map Slot.isNull }, written.2) := by
  intro written
  have hlength : written.1.length = n := by
    refine (Executor.length_currentRow _ c.executor).trans ?_
    rw [List.length_zipWith, hvalues, hnulls, Nat.min_self]
  show ({ p with
      values := written.1.map Slot.datum ++ p.values.drop written.1.length
      nulls := written.1.map Slot.isNull ++ p.nulls.drop written.1.length }, written.2) = _
  rw [map_append_drop_of_length_eq Slot.datum (hvalues.trans hlength.symm),
    map_append_drop_of_length_eq Slot.isNull (hnulls.trans hlength.symm)]

/-- With buffers at hand a row is taken in. -/
theorem takeRow_of_prepareBuffers {q : ReaderParts σ} {count n : Nat} {c c' : Connection σ}
    (hprepared : p.prepareBuffers count c = (.ok (), q, c')) (hvalues : q.values.length = n)
    (hnulls : q.nulls.length = n) :
    let written := c'.onExecutor (Executor.currentRow (List.zipWith Slot.mk q.values q.nulls))
    p.takeRow count c = (.ok true,
      { q with
        values := written.1.map Slot.datum
        nulls := written.1.map Slot.isNull
        hasRow := true
        rowsFetched := q.rowsFetched + 1 },
      written.2) := by
  intro written
  rw [takeRow, hprepared]
  simp only
  rw [writeRow_eq hvalues hnulls]

/-- A row is taken into the parts as it is taken in over the row that they hold. -/
theorem takeRow_eq (hbuffers : ∀ cs, p.columns = some cs → p.values.length = cs.size ∧ p.nulls.length = cs.size)
    (hrow : p.hasRow = false) (count : Nat) (c : Connection σ) :
    let taken := rowTaken p.columns (p.columns.map fun _ => List.zipWith Slot.mk p.values p.nulls) count c
    p.takeRow count c = (taken.1.map Option.isSome, p.afterFetch taken.1, taken.2) := by
  rcases p with ⟨session, statement, cursor, stage, columns, values, nulls, hasRow, rowsFetched, recordsAffected⟩
  obtain rfl : hasRow = false := hrow
  cases columns with
  | some cs =>
    obtain ⟨hvalues, hnulls⟩ := hbuffers cs rfl
    rw [takeRow_of_prepareBuffers rfl hvalues hnulls]
    rfl
  | none =>
    rcases hcolumns : Executor.columns count c.executor with ⟨_ | cs, s⟩
    · have htold := Connection.onExecutor_of_eq hcolumns
      simp only [takeRow, prepareBuffers, htold, rowTaken, Reader.columnsOf, Step.bind_of_error htold]
      rfl
    -- The buffers are new, and hold the blank places that a first row is written over.
    · have htold := Connection.onExecutor_of_eq hcolumns
      have hblank : List.zipWith Slot.mk (List.replicate cs.size (Executor.noDatum : Executor.Datum σ))
          (List.replicate cs.size false) = List.replicate cs.size Executor.blankPlace := by
        rw [List.zipWith_replicate, Nat.min_self]
        rfl
      have hprepared : prepareBuffers ⟨session, statement, cursor, stage, none, values, nulls, false, rowsFetched,
          recordsAffected⟩ count c = (.ok (), ⟨session, statement, cursor, stage, some cs,
          List.replicate cs.size Executor.noDatum, List.replicate cs.size false, false, rowsFetched,
          recordsAffected⟩, { c with executor := s }) := by
        simp only [prepareBuffers, htold]
      rw [takeRow_of_prepareBuffers hprepared List.length_replicate List.length_replicate]
      simp only [hblank, rowTaken, Reader.columnsOf, Step.bind_of_ok htold]
      rfl

/-- An active reader whose columns are known has as many places as there are columns. -/
theorem Sound.row?_eq (h : p.Sound) (hactive : p.stage = .active) :
    p.row? = p.columns.map fun _ => List.zipWith Slot.mk p.values p.nulls := by
  obtain ⟨-, -, -, hknown⟩ := h.active hactive
  rw [row?, hknown]
  cases p.columns <;> rfl

/-- Fetching into the parts is fetching a row with the columns and over the row that they hold. -/
theorem fetch_eq (h : p.Sound) (hactive : p.stage = .active) {cursor : Executor.Cursor σ}
    (hcursor : p.cursor = some cursor) (c : Connection σ) :
    let fetched := Reader.fetchRow cursor p.columns p.row? c
    p.fetch c = (fetched.1.map Option.isSome, p.afterFetch fetched.1, fetched.2) := by
  obtain ⟨hsession, -⟩ := h.active hactive
  have htake := takeRow_eq (p := { p with hasRow := false }) h.buffers rfl
  rw [h.row?_eq hactive]
  rcases p with ⟨session, statement, opened, stage, columns, values, nulls, hasRow, rowsFetched, recordsAffected⟩
  obtain rfl : session = some ⟨true⟩ := hsession
  obtain rfl : opened = some cursor := hcursor
  rcases hfetch : Executor.fetch cursor c.executor with ⟨_ | _, t⟩
  · have hfetched := Connection.onExecutor_of_eq hfetch
    simp only [fetch, hfetched, Reader.fetchRow, Step.bind_of_error hfetched]
    rfl
  · have hfetched := Connection.onExecutor_of_eq hfetch
    rcases hsize : Executor.dimensions t with ⟨⟨rows, count⟩, u⟩
    have hsized := Connection.onExecutor_of_eq (c := { c with executor := t }) hsize
    simp only [fetch, hfetched, hsized, Reader.fetchRow, Step.bind_of_ok hfetched, Connection.bind_apply,
      Step.total_apply, Step.update_apply]
    cases rows with
    | zero => rfl
    | succ rows =>
      rw [if_neg (Nat.succ_ne_zero rows), htake]
      rfl

/-- Releasing ends a session once, although the session is given up after it has been ended. -/
theorem release_of_session (hsession : p.session = some ⟨true⟩) (c : Connection σ) :
    p.release c = (p.released p.stage, c.release) := by
  rcases p with ⟨session, statement, cursor, stage, columns, values, nulls, hasRow, rowsFetched, recordsAffected⟩
  obtain rfl : session = some ⟨true⟩ := hsession
  rfl

/-- Without a session, releasing takes nothing but the row away. -/
theorem release_of_no_session (hsession : p.session = none) (c : Connection σ) :
    p.release c = (p.released p.stage, c) := by
  rcases p with ⟨session, statement, cursor, stage, columns, values, nulls, hasRow, rowsFetched, recordsAffected⟩
  obtain rfl : session = none := hsession
  rfl

/-- A reader that is not active has nothing to read, and an active one has a row, has none, or fails. In the last two
cases the session is ended. -/
theorem read_cases (h : p.Sound) (c : Connection σ) :
    (p.stage ≠ .active ∧ p.read c = (.ok false, p, c)) ∨
      p.stage = .active ∧ ∃ cursor, p.cursor = some cursor ∧
        ((∃ cs row c', Reader.fetchRow cursor p.columns p.row? c = (.ok (some (cs, row)), c') ∧
            p.read c = (.ok true, p.afterFetch (.ok (some (cs, row))), c')) ∨
          (∃ c', Reader.fetchRow cursor p.columns p.row? c = (.ok none, c') ∧
            p.read c = (.ok false, p.released .exhausted, (c'.emit (.exhausted p.rowsFetched)).release)) ∨
          ∃ e c', Reader.fetchRow cursor p.columns p.row? c = (.error e, c') ∧
            p.read c = (.error e, p.released .closed, (c'.emit (.fetchFailed e)).release)) := by
  by_cases hactive : p.stage = .active
  · obtain ⟨hsession, -, ⟨cursor, hcursor⟩, -⟩ := h.active hactive
    refine .inr ⟨hactive, cursor, hcursor, ?_⟩
    have hfetch := fetch_eq h hactive hcursor c
    rcases hfetched : Reader.fetchRow cursor p.columns p.row? c with ⟨e | _ | ⟨cs, row⟩, c'⟩
    -- A fetch without a row has left the session as it was, so that it is there to be ended.
    · refine .inr (.inr ⟨e, c', rfl, ?_⟩)
      rw [hfetched] at hfetch
      have hreleased := release_of_session (p := { p with hasRow := false }) hsession (c'.emit (.fetchFailed e))
      rw [read, if_pos hactive, hfetch]
      simp only [afterFetch, Except.map, hreleased]
      rfl
    · refine .inr (.inl ⟨c', rfl, ?_⟩)
      rw [hfetched] at hfetch
      have hreleased := release_of_session (p := { p with hasRow := false, stage := .exhausted }) hsession
        (c'.emit (.exhausted p.rowsFetched))
      rw [read, if_pos hactive, hfetch]
      simp only [afterFetch, Except.map, Option.isSome, hreleased]
      rfl
    · refine .inl ⟨cs, row, c', rfl, ?_⟩
      rw [hfetched] at hfetch
      rw [read, if_pos hactive, hfetch]
      rfl
  · exact .inl ⟨hactive, by rw [read, if_neg hactive]⟩

/-- Closing ends the session of an active reader. -/
theorem close_of_active (h : p.Sound) (hactive : p.stage = .active) (c : Connection σ) :
    p.close c = (p.released .closed, c.release) := by
  obtain ⟨hsession, -⟩ := h.active hactive
  have hopen : p.stage ≠ .closed := by
    rw [hactive]
    decide
  rw [close, if_neg hopen, release_of_session hsession]
  rfl

/-- Closing only marks a reader that is not active. -/
theorem close_of_not_active (h : p.Sound) (hinactive : p.stage ≠ .active) (c : Connection σ) :
    p.close c = (p.released .closed, c) := by
  obtain ⟨hsession, hstatement, hcursor, hrow⟩ := h.inactive hinactive
  by_cases hclosed : p.stage = .closed
  · rcases p with ⟨session, statement, cursor, stage, columns, values, nulls, hasRow, rowsFetched, recordsAffected⟩
    obtain rfl : stage = .closed := hclosed
    obtain rfl : session = none := hsession
    obtain rfl : statement = none := hstatement
    obtain rfl : cursor = none := hcursor
    obtain rfl : hasRow = false := hrow
    rfl
  · rw [close, if_neg hclosed, release_of_no_session hsession]
    rfl

/-! ## Keeping the parts together -/

/-- A fetched row has a place for each column, and columns that were known stay the same. -/
theorem Sound.length_row (h : p.Sound) (hactive : p.stage = .active) {cursor : Executor.Cursor σ} {cs : Columns}
    {row : List (Executor.Place σ)} {s t : σ}
    (hfetching : Reader.Fetching cursor p.columns p.row? s (.ok (some (cs, row))) t) :
    row.length = cs.size ∧ ∀ cs', p.columns = some cs' → cs' = cs := by
  refine Reader.length_row_of_fetching hfetching fun places hplaces => ?_
  rw [h.row?_eq hactive] at hplaces
  obtain ⟨cs, hcs, rfl⟩ := Option.map_eq_some_iff.1 hplaces
  obtain ⟨hvalues, hnulls⟩ := h.buffers cs hcs
  exact ⟨cs, hcs, by rw [List.length_zipWith, hvalues, hnulls, Nat.min_self]⟩

/-- A fetched row leaves buffers that have a place for each column. -/
theorem Sound.afterFetch (h : p.Sound) (hactive : p.stage = .active) {cursor : Executor.Cursor σ} {cs : Columns}
    {row : List (Executor.Place σ)} {c c' : Connection σ}
    (hfetch : Reader.fetchRow cursor p.columns p.row? c = (.ok (some (cs, row)), c')) :
    (p.afterFetch (.ok (some (cs, row)))).Sound := by
  have hfetching := Reader.fetching_fetchRow cursor p.columns p.row? c
  rw [hfetch] at hfetching
  obtain ⟨hlength, -⟩ := h.length_row hactive hfetching
  obtain ⟨hsession, hstatement, hcursor, -⟩ := h.active hactive
  refine ⟨fun _ => ⟨hsession, hstatement, hcursor, rfl⟩, fun hinactive => absurd hactive hinactive, ?_⟩
  rintro cs' ⟨⟩
  exact ⟨(List.length_map _).trans hlength, (List.length_map _).trans hlength⟩

/-- Reading keeps the parts of a reader together. -/
theorem Sound.read (h : p.Sound) (c : Connection σ) : (p.read c).2.1.Sound := by
  rcases p.read_cases h c with ⟨-, hread⟩ | ⟨hactive, cursor, hcursor, hread⟩
  · rw [hread]
    exact h
  rcases hread with ⟨cs, row, c', hfetch, hread⟩ | ⟨c', -, hread⟩ | ⟨e, c', -, hread⟩
  · rw [hread]
    exact h.afterFetch hactive hfetch
  · rw [hread]
    exact h.released (by decide)
  · rw [hread]
    exact h.released (by decide)

/-- Closing keeps the parts together. -/
theorem Sound.close (h : p.Sound) (c : Connection σ) : (p.close c).1.Sound := by
  by_cases hactive : p.stage = .active
  · rw [close_of_active h hactive]
    exact h.released (by decide)
  · rw [close_of_not_active h hactive]
    exact h.released (by decide)

/-! ## The reader of the parts -/

/-- The reader of active parts is active, over their statement, cursor and row. -/
theorem phase_toReader (h : p.Sound) (hactive : p.stage = .active) :
    ∃ statement cursor, p.statement = some statement ∧ p.cursor = some cursor ∧
      p.toReader.phase = .active statement cursor p.row? := by
  obtain ⟨-, ⟨statement, hstatement⟩, ⟨cursor, hcursor⟩, -⟩ := h.active hactive
  refine ⟨statement, cursor, hstatement, hcursor, ?_⟩
  simp only [toReader, hactive, hstatement, hcursor]

/-- The reader of other parts is exhausted or closed as they are. -/
theorem phase_toReader_of_not_active (hinactive : p.stage ≠ .active) :
    (p.stage = .exhausted ∧ p.toReader.phase = .exhausted) ∨ p.stage = .closed ∧ p.toReader.phase = .closed := by
  cases hstage : p.stage with
  | active => exact absurd hstage hinactive
  | exhausted => exact .inl ⟨rfl, by simp only [toReader, hstage]⟩
  | closed => exact .inr ⟨rfl, by simp only [toReader, hstage]⟩

/-- Parts are active if their reader is. -/
theorem isActive_toReader_iff (h : p.Sound) : p.toReader.IsActive ↔ p.stage = .active := by
  constructor
  · rintro ⟨statement, cursor, row, hphase⟩
    refine Decidable.byContradiction fun hinactive => ?_
    rcases phase_toReader_of_not_active hinactive with ⟨-, hother⟩ | ⟨-, hother⟩ <;> rw [hphase] at hother <;>
      cases hother
  · intro hactive
    obtain ⟨statement, cursor, -, -, hphase⟩ := phase_toReader h hactive
    exact ⟨statement, cursor, p.row?, hphase⟩

/-- The reader of parts has the places of their buffers. -/
theorem row?_toReader (h : p.Sound) : p.toReader.row? = p.row? := by
  by_cases hactive : p.stage = .active
  · obtain ⟨statement, cursor, -, -, hphase⟩ := phase_toReader h hactive
    rw [Reader.row?, hphase]
  · have hrow : p.row? = none := by rw [row?, (h.inactive hactive).2.2.2]; rfl
    rw [hrow]
    rcases phase_toReader_of_not_active hactive with ⟨-, hphase⟩ | ⟨-, hphase⟩ <;> rw [Reader.row?, hphase]

theorem isClosed_toReader (h : p.Sound) : p.toReader.isClosed = decide (p.stage = .closed) := by
  cases hstage : p.stage with
  | active =>
    obtain ⟨statement, cursor, -, -, hphase⟩ := phase_toReader h hstage
    rw [Reader.isClosed, hphase]
    rfl
  | exhausted => simp only [Reader.isClosed, toReader, hstage]; rfl
  | closed => simp only [Reader.isClosed, toReader, hstage]; rfl

/-- What is refused once a reader is closed is refused once its parts are. -/
theorem ite_isClosed_toReader (h : p.Sound) {α : Type} (refused told : α) :
    (if p.toReader.isClosed then refused else told) = if p.stage = .closed then refused else told := by
  rw [isClosed_toReader h]
  simp only [decide_eq_true_eq]

/-- Moving the reader moves its parts. -/
theorem toReader_read (h : p.Sound) (c : Connection σ) :
    p.toReader.read c = ((p.read c).1, (p.read c).2.1.toReader, (p.read c).2.2) := by
  rcases p.read_cases h c with ⟨hinactive, hread⟩ | ⟨hactive, cursor, hcursor, hread⟩
  · rw [hread]
    rcases phase_toReader_of_not_active hinactive with ⟨-, hphase⟩ | ⟨-, hphase⟩ <;> rw [Reader.read, hphase]
  obtain ⟨statement, cursor', hstatement, hcursor', hphase⟩ := phase_toReader h hactive
  obtain rfl : cursor' = cursor := Option.some.inj (hcursor'.symm.trans hcursor)
  have hcolumns : p.toReader.columns = p.columns := rfl
  rw [Reader.read, hphase, hcolumns]
  rcases hread with ⟨cs, row, c', hfetch, hread⟩ | ⟨c', hfetch, hread⟩ | ⟨e, c', hfetch, hread⟩
  · rw [hread]
    simp only [hfetch]
    -- The two buffers together are the places that the row was fetched as.
    have hafter : (p.afterFetch (.ok (some (cs, row)))).toReader
        = { p.toReader with
            phase := .active statement cursor' (some row)
            columns := some cs
            rowsFetched := p.toReader.rowsFetched + 1 } := by
      simp only [afterFetch, toReader, row?, hactive, hstatement, hcursor, if_true, zipWith_map_datum_isNull]
    rw [hafter]
  · rw [hread]
    simp only [hfetch]
    rfl
  · rw [hread]
    simp only [hfetch]
    rfl

/-- Closing the reader closes its parts. -/
theorem toReader_close (h : p.Sound) (c : Connection σ) :
    p.toReader.close c = ((p.close c).1.toReader, (p.close c).2) := by
  by_cases hactive : p.stage = .active
  · rw [close_of_active h hactive, Reader.close_of_isActive ((isActive_toReader_iff h).2 hactive)]
    rfl
  · rw [close_of_not_active h hactive, Reader.close_of_not_isActive (mt (isActive_toReader_iff h).1 hactive)]
    rfl

/-- A reader that is given up has its session ended, if that has not been done. -/
theorem toReader_dispose (h : p.Sound) (c : Connection σ) : p.toReader.dispose c = p.dispose c := by
  by_cases hactive : p.stage = .active
  · rw [dispose, if_pos hactive, close_of_active h hactive,
      Reader.dispose_of_isActive ((isActive_toReader_iff h).2 hactive)]
    rfl
  · rw [dispose, if_neg hactive, close_of_not_active h hactive,
      Reader.dispose_of_not_isActive (mt (isActive_toReader_iff h).1 hactive)]
    rfl

/-! ## Accessors -/

/-- A column is looked up in the parts as in their reader. -/
theorem column_toReader (h : p.Sound) (i : Nat) : p.toReader.column i = p.column i := by
  rw [Reader.column, column, ite_isClosed_toReader h]
  rfl

/-- A name is looked up in the parts as in their reader. -/
theorem ordinal_toReader (h : p.Sound) (name : String) : p.toReader.ordinal name = p.ordinal name := by
  rw [Reader.ordinal, ordinal, ite_isClosed_toReader h]
  rfl

theorem label_toReader (h : p.Sound) (i : Nat) : p.toReader.label i = p.label i := by
  have hname : p.toReader.columnName i = (p.column i).map Column.name := by
    rw [Reader.columnName, column_toReader h]
  unfold Reader.label label
  cases hcolumn : (p.column i).map Column.name <;> simp only [hname, hcolumn]

/-- The parts tell of themselves what the reader tells. -/
theorem state_toReader (h : p.Sound) : p.toReader.state = p.state := by
  have hrow : p.toReader.hasRow = p.hasRow := by
    rw [Reader.hasRow, row?_toReader h, row?]
    cases p.hasRow <;> rfl
  have hstatement : p.toReader.statement? = p.statement := by
    by_cases hactive : p.stage = .active
    · obtain ⟨statement, cursor, hsome, -, hphase⟩ := phase_toReader h hactive
      rw [Reader.statement?, hphase, hsome]
    · rw [(h.inactive hactive).2.1]
      rcases phase_toReader_of_not_active hactive with ⟨-, hphase⟩ | ⟨-, hphase⟩ <;> rw [Reader.statement?, hphase]
  rw [Reader.state, state, isClosed_toReader h, hrow, hstatement]
  rfl

/-- A column that is found has a position in either buffer. -/
theorem Sound.lt_length (h : p.Sound) (hrow : p.hasRow = true) {i : Nat} {found : Column}
    (hcolumn : p.column i = .ok found) : i < p.values.length ∧ i < p.nulls.length := by
  obtain ⟨-, cs, hcs, hvalues, hnulls⟩ := h.row hrow
  rw [column, hcs] at hcolumn
  rw [hvalues, hnulls]
  split at hcolumn
  · cases hcolumn
  · split at hcolumn
    · rename_i hget
      have hi := (List.getElem?_eq_some_iff.1 hget).1
      exact ⟨hi, hi⟩
    · cases hcolumn

/-- While there is a row, the reader has the datum and the flag of a column in one place. -/
theorem place_toReader (h : p.Sound) (hrow : p.hasRow = true) {i : Nat} (hvalues : i < p.values.length)
    (hnulls : i < p.nulls.length) : p.toReader.place i = .ok ⟨p.values[i], p.nulls[i]⟩ := by
  have hplace : (p.toReader.row?.bind fun row => row[i]?) = some ⟨p.values[i], p.nulls[i]⟩ := by
    rw [row?_toReader h, row?, if_pos hrow, Option.bind_some, List.getElem?_zipWith,
      List.getElem?_eq_getElem hvalues, List.getElem?_eq_getElem hnulls]
  rw [Reader.place, hplace]

/-- Where the flag tells of no row, the reader has no places. -/
theorem place_toReader_of_not_hasRow (h : p.Sound) (hrow : ¬ p.hasRow = true) (i : Nat) :
    p.toReader.place i = .error .noCurrentRow := by
  rw [Reader.place, row?_toReader h, row?, if_neg hrow]
  rfl

/-- The null flag of a column is looked up where the reader has it. -/
theorem isNull?_eq (h : p.Sound) (i : Nat) : p.isNull? i = some (p.toReader.isNull i) := by
  rw [isNull?, Reader.isNull, column_toReader h]
  cases hcolumn : p.column i with
  | error e => rfl
  | ok found =>
    by_cases hrow : p.hasRow = true
    · obtain ⟨hvalues, hnulls⟩ := h.lt_length hrow hcolumn
      simp only [if_pos hrow, List.getElem?_eq_getElem hnulls, place_toReader h hrow hvalues hnulls]
      rfl
    · simp only [if_neg hrow, place_toReader_of_not_hasRow h hrow]
      rfl

/-- The value of a column is looked up where the reader has it, and the session is there to read its datum. -/
theorem value?_eq (h : p.Sound) (i : Nat) (c : Connection σ) : p.value? i c = some (p.toReader.value i c) := by
  rw [value?, Reader.value, column_toReader h]
  cases hcolumn : p.column i with
  | error e => rfl
  | ok found =>
    by_cases hrow : p.hasRow = true
    · obtain ⟨hvalues, hnulls⟩ := h.lt_length hrow hcolumn
      obtain ⟨hsession, -⟩ := h.active (h.row hrow).1
      simp only [if_pos hrow, List.getElem?_eq_getElem hnulls, List.getElem?_eq_getElem hvalues,
        place_toReader h hrow hvalues hnulls, hsession]
      cases p.nulls[i] <;> rfl
    · simp only [if_neg hrow, place_toReader_of_not_hasRow h hrow]
      rfl

/-- A typed reading of the parts is that of their reader. -/
theorem get?_eq (h : p.Sound) (target : Target) (i : Nat) (c : Connection σ) :
    p.get? target i c = some (p.toReader.get target i c) := by
  rw [get?, value?_eq h, Reader.get, Connection.bind_apply, label_toReader h]
  rcases p.toReader.value i c with ⟨_ | v, c'⟩
  · rfl
  · simp only [Option.bind_eq_bind, Option.bind_some]
    cases target.read v <;> rfl

/-- A typed reading by name is that of the reader. -/
theorem getByName?_eq (h : p.Sound) (target : Target) (name : String) (c : Connection σ) :
    p.getByName? target name c = some (p.toReader.getByName target name c) := by
  rw [getByName?, Reader.getByName, ordinal_toReader h]
  cases p.ordinal name with
  | error e => rfl
  | ok i => exact get?_eq h target i c

/-- Values are copied from the parts as from their reader. -/
theorem copyFrom?_eq (h : p.Sound) (count i : Nat) (buffer : List Value) (c : Connection σ) :
    p.copyFrom? count i buffer c = some (p.toReader.copyFrom count i buffer c) := by
  induction buffer generalizing i c with
  | nil => rfl
  | cons old rest ih =>
    rw [copyFrom?, Reader.copyFrom, value?_eq h]
    by_cases hi : i < count
    · rw [if_pos hi, if_pos hi]
      rcases p.toReader.value i c with ⟨_ | v, c'⟩
      · rfl
      · show (p.copyFrom? count (i + 1) rest c').bind _ = _
        rw [ih]
        rfl
    · rw [if_neg hi, if_neg hi]

/-- A row of the parts is copied as that of their reader. -/
theorem values?_eq (h : p.Sound) (buffer : List Value) (c : Connection σ) :
    p.values? buffer c = some (p.toReader.values buffer c) := by
  show (p.copyFrom? _ 0 buffer c).bind _ = _
  rw [copyFrom?_eq h]
  rfl

/-! ## Requests -/

/-- Moving or closing aside, a request leaves the parts as they are. -/
theorem answer?_cases (h : p.Sound) (c : Connection σ) (request : ReaderRequest) :
    (request.moves = true ∧ p.answer? c request = some (.ofExcept .flag (p.read c).1, (p.read c).2)) ∨
      (request = .close ∧ p.answer? c request = some (.done, p.close c)) ∨
      request.moves = false ∧ ∃ reply c', p.answer? c request = some (reply, p, c') ∧
        p.toReader.answer c request = (reply, p.toReader, c') ∧ Reader.Looked p.toReader c c' := by
  cases request with
  | read => exact .inl ⟨rfl, rfl⟩
  | nextResult => exact .inl ⟨rfl, rfl⟩
  | close => exact .inr (.inl ⟨rfl, rfl⟩)
  | state => exact .inr (.inr ⟨rfl, _, c, rfl, by rw [Reader.answer, state_toReader h], .none⟩)
  | ordinal name => exact .inr (.inr ⟨rfl, _, c, rfl, by rw [Reader.answer, ordinal_toReader h], .none⟩)
  | columnName i =>
    exact .inr (.inr ⟨rfl, _, c, rfl, by rw [Reader.answer, Reader.columnName, column_toReader h], .none⟩)
  | columnType i =>
    exact .inr (.inr ⟨rfl, _, c, rfl, by rw [Reader.answer, Reader.columnType, column_toReader h], .none⟩)
  | columnTypeName i =>
    exact .inr (.inr ⟨rfl, _, c, rfl, by rw [Reader.answer, Reader.columnTypeName, column_toReader h], .none⟩)
  | isNull i => exact .inr (.inr ⟨rfl, _, c, by rw [answer?, isNull?_eq h]; rfl, rfl, .none⟩)
  | value i => exact .inr (.inr ⟨rfl, _, _, by rw [answer?, value?_eq h]; rfl, rfl, .value .none i⟩)
  | get target i =>
    exact .inr (.inr ⟨rfl, _, _, by rw [answer?, get?_eq h]; rfl, rfl, p.toReader.looked_get target i c⟩)
  | getByName target name =>
    exact .inr (.inr ⟨rfl, _, _, by rw [answer?, getByName?_eq h]; rfl, rfl,
      p.toReader.looked_getByName target name c⟩)
  | values n =>
    refine .inr (.inr ⟨rfl, ?_⟩)
    have hlooked : Reader.Looked p.toReader c (p.toReader.values (List.replicate n .null) c).2.2 :=
      p.toReader.looked_copyFrom _ 0 _ c c .none
    rw [answer?, values?_eq h, Reader.answer]
    rcases hcopied : p.toReader.values (List.replicate n .null) c with ⟨_ | count, values, c'⟩
    all_goals rw [hcopied] at hlooked
    · exact ⟨_, c', rfl, rfl, hlooked⟩
    · exact ⟨_, c', rfl, rfl, hlooked⟩

/-- A request to the parts is answered, keeps them together, and is answered as a request to the reader is. -/
theorem exists_answer? (h : p.Sound) (c : Connection σ) (request : ReaderRequest) :
    ∃ reply p' c', p.answer? c request = some (reply, p', c') ∧ p'.Sound ∧
      p.toReader.answer c request = (reply, p'.toReader, c') := by
  rcases p.answer?_cases h c request with ⟨hmoves, hread⟩ | ⟨rfl, hclose⟩ | ⟨-, reply, c', hlook, hanswer, -⟩
  · refine ⟨_, _, _, hread, h.read c, ?_⟩
    have hmoved := toReader_read h c
    cases request with
    | read | nextResult => simp only [Reader.answer, hmoved]
    | _ => cases hmoves
  · refine ⟨.done, (p.close c).1, (p.close c).2, hclose, h.close c, ?_⟩
    rw [Reader.answer, toReader_close h]
  · exact ⟨reply, p, c', hlook, h, hanswer⟩

/-- Any requests to the parts are answered as requests to the reader are. -/
theorem exists_answerAll? (h : p.Sound) (c : Connection σ) (requests : List ReaderRequest) :
    ∃ replies p' c', p.answerAll? c requests = some (replies, p', c') ∧ p'.Sound ∧
      p.toReader.answerAll c requests = (replies, p'.toReader, c') := by
  induction requests generalizing p c with
  | nil => exact ⟨[], p, c, rfl, h, rfl⟩
  | cons request rest ih =>
    obtain ⟨reply, p₁, c₁, hfirst, hsound, hreader⟩ := exists_answer? h c request
    obtain ⟨replies, p₂, c₂, hrest, hsound', hreaders⟩ := ih hsound c₁
    refine ⟨reply :: replies, p₂, c₂, ?_, hsound', ?_⟩
    · simp only [answerAll?, hfirst, hrest, Option.bind_eq_bind, Option.bind_some]
      rfl
    · simp only [Reader.answerAll, hreader, hreaders]

end ReaderParts

/-! ## Commands -/

namespace Command

open ReaderParts

/-- A cursor is opened for the parts as it is for the reader. -/
theorem openCursor_eq (plan : Plan) (ps : Parameters) (c : Connection σ) :
    openCursor plan ps c = ((openParts plan ps c).1.map toReader, (openParts plan ps c).2) ∧
      ∀ p, (openParts plan ps c).1 = .ok p → p.Sound := by
  rcases hprepared : (prepareStatement plan : Action σ (Prepared σ)) c with ⟨_ | statement, c₁⟩
  · rw [openCursor, openParts, Step.bind_of_error hprepared, Step.bind_of_error hprepared]
    exact ⟨rfl, fun p h => by cases h⟩
  rw [openCursor, openParts, Step.bind_of_ok hprepared, Step.bind_of_ok hprepared]
  rcases hbound : (bindParameters plan ps : Action σ (List (Executor.Place σ))) c₁ with ⟨_ | places, c₂⟩
  · rw [Step.bind_of_error hbound, Step.bind_of_error hbound]
    exact ⟨rfl, fun p h => by cases h⟩
  rw [Step.bind_of_ok hbound, Step.bind_of_ok hbound]
  rcases hopened : c₂.onExecutor (Executor.openCursor statement.handle places) with ⟨_ | cursor, c₃⟩
  · rw [Step.bind_of_error hopened, Step.bind_of_error hopened]
    exact ⟨rfl, fun p h => by cases h⟩
  · rw [Step.bind_of_ok hopened, Step.bind_of_ok hopened]
    refine ⟨rfl, ?_⟩
    rintro p ⟨⟩
    exact sound_ofCursor statement cursor

/-- In a context of its own, too, a cursor is opened for the parts as it is for the reader. -/
theorem opening_openCursor_eq (plan : Plan) (ps : Parameters) (c : Connection σ) :
    let opened := Connection.opening (openParts plan ps) c
    Connection.opening (openCursor plan ps) c = (opened.1.map toReader, opened.2) ∧
      ∀ p, opened.1 = .ok p → p.Sound := by
  intro opened
  have hopened : opened = Connection.opening (openParts plan ps) c := rfl
  rw [Connection.opening] at hopened
  rw [hopened, Connection.opening]
  rcases Connection.acquire c with ⟨_ | _, c'⟩
  · exact ⟨rfl, fun p h => by cases h⟩
  obtain ⟨hcursor, hsound⟩ := openCursor_eq plan ps c'
  simp only [hcursor]
  rcases hstep : openParts plan ps c' with ⟨_ | p, c''⟩
  · exact ⟨rfl, fun p h => by cases h⟩
  · refine ⟨rfl, ?_⟩
    rintro p' ⟨⟩
    exact hsound p (by rw [hstep])

/-- A command delivers the parts of the reader that it delivers, and they go together. -/
theorem executeReader_eq (cmd : Command) (c : Connection σ) :
    cmd.executeReader c = ((cmd.executeParts c).1.map toReader, (cmd.executeParts c).2) ∧
      ∀ p, (cmd.executeParts c).1 = .ok p → p.Sound := by
  rw [executeReader, executeParts]
  cases cmd.isQuery with
  | true =>
    simp only [if_true]
    rcases cmd.prepare c with ⟨_ | plan, cmd', c'⟩
    · exact ⟨rfl, fun p h => by cases h⟩
    · obtain ⟨hopening, hsound⟩ := opening_openCursor_eq plan cmd'.parameters c'
      exact ⟨by simp only [hopening], hsound⟩
  | false =>
    simp only [Bool.false_eq_true, if_false]
    rcases cmd.executeNonQuery c with ⟨_ | n, cmd', c'⟩
    · exact ⟨rfl, fun p h => by cases h⟩
    · refine ⟨rfl, ?_⟩
      rintro p ⟨⟩
      exact sound_ofAffected n

/-- The whole of an execution for a reader goes part by part as it goes for the reader. -/
theorem readParts?_eq (cmd : Command) (c : Connection σ) (requests : List ReaderRequest) :
    cmd.readParts? c requests = some (cmd.answer c (.reader requests)) := by
  obtain ⟨hreader, hsound⟩ := cmd.executeReader_eq c
  rw [readParts?, answer, hreader]
  rcases hparts : cmd.executeParts c with ⟨_ | p, cmd', c'⟩
  · rfl
  · obtain ⟨replies, p', c'', hanswered, hsound', hreplies⟩ := exists_answerAll? (hsound p (by rw [hparts])) c' requests
    simp only [hanswered, Option.bind_eq_bind, Option.bind_some, Except.map, hreplies, toReader_dispose hsound']
    rfl

end Command

end InProcessSql
