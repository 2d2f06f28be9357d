import InProcessSql.Executor.Scripted
import InProcessSql.Proofs.Executions

/-!
# Access without a current row

A reader has a current row exactly if the last request that moved or closed it moved it to one. Without a current row
no accessor tells a value: `Reader.RefusesValues` says which error each of them answers, and
`Reader.refusesValues_answerAll` that it is so for all readers that commands deliver, over any executor. Copying a row
is refused only where there is something to copy, and answers that nothing was copied otherwise.
-/

namespace InProcessSql

/-! ## Requests that lead to a row -/

/-- Whether a reply is an error. -/
def ReaderReply.isError : ReaderReply → Bool
  | .error _ => true
  | _ => false

namespace ReaderRequest

/-- Whether a reader is on a row after a request, given whether it was before and the reply. -/
def landsOnRow (before : Bool) (reply : ReaderReply) : ReaderRequest → Bool
  | .read => reply.isTrue
  | .nextResult => reply.isTrue
  | .close => false
  | _ => before

/-- Whether a reader is closed after a request, given whether it was before and the reply. -/
def leavesClosed (before : Bool) (reply : ReaderReply) : ReaderRequest → Bool
  | .read => before || reply.isError
  | .nextResult => before || reply.isError
  | .close => true
  | _ => before

variable {request : ReaderRequest} {before : Bool} {reply : ReaderReply}

/-- After a move the reader stands on a row if the reply says so, and an error closes it. -/
theorem of_moves (h : request.moves = true) :
    request.landsOnRow before reply = reply.isTrue ∧ request.leavesClosed before reply = (before || reply.isError) := by
  cases request with
  | read | nextResult => exact ⟨rfl, rfl⟩
  | _ => cases h

/-- Requests that neither move nor close leave the reader where it is. -/
theorem of_not_moves (h : request.moves = false) (hclose : request ≠ .close) :
    request.landsOnRow before reply = before ∧ request.leavesClosed before reply = before := by
  cases request with
  | read | nextResult => cases h
  | close => exact absurd rfl hclose
  | _ => exact ⟨rfl, rfl⟩

end ReaderRequest

/-- What becomes of a fact about a reader with each request and its reply. -/
def throughRequests (step : Bool → ReaderReply → ReaderRequest → Bool) :
    Bool → List ReaderRequest → List ReaderReply → Bool
  | before, request :: requests, reply :: replies =>
    throughRequests step (step before reply request) requests replies
  | before, _, _ => before

/-- Whether a reader is on a row after some requests: the last one that moved or closed it decides. -/
def onRow (requests : List ReaderRequest) (replies : List ReaderReply) : Bool :=
  throughRequests ReaderRequest.landsOnRow false requests replies

/-- Whether a reader is closed after some requests: it has been, or it could not be moved. -/
def hasClosed (requests : List ReaderRequest) (replies : List ReaderReply) : Bool :=
  throughRequests ReaderRequest.leavesClosed false requests replies

namespace Reader

variable {σ : Type} [Executor σ] {r : Reader σ}

/-- What each request does to a fact about the reader, all requests do. -/
theorem throughRequests_answerAll {fact : Reader σ → Bool} {step : Bool → ReaderReply → ReaderRequest → Bool}
    (hstep : ∀ r c request, fact (r.answer c request).2.1 = step (fact r) (r.answer c request).1 request)
    (r : Reader σ) (c : Connection σ) (requests : List ReaderRequest) :
    fact (r.answerAll c requests).2.1 = throughRequests step (fact r) requests (r.answerAll c requests).1 := by
  induction requests generalizing r c with
  | nil => rfl
  | cons request rest ih =>
    have hrest := ih (r.answer c request).2.1 (r.answer c request).2.2
    rw [hstep] at hrest
    exact hrest

/-- A reader that is moved is on a row if it says so, and closed if it was or the move failed. -/
theorem state_read (r : Reader σ) (c : Connection σ) :
    let reply := ReaderReply.ofExcept .flag (r.read c).1
    (r.read c).2.1.hasRow = reply.isTrue ∧ (r.read c).2.1.isClosed = (r.isClosed || reply.isError) := by
  rcases r.read_cases c with ⟨hinactive, hread⟩ | ⟨statement, cursor, row, hphase, hread⟩
  · rw [hread]
    exact ⟨hasRow_of_not_isActive hinactive, (Bool.or_false _).symm⟩
  · rw [isClosed_of_isActive ⟨statement, cursor, row, hphase⟩]
    rcases hread with ⟨cs, next, c', -, hread⟩ | ⟨c', -, hread⟩ | ⟨e, c', -, hread⟩ <;> rw [hread] <;> exact ⟨rfl, rfl⟩

/-- A reader that has been closed says so. -/
theorem isClosed_close (r : Reader σ) (c : Connection σ) : (r.close c).1.isClosed = true := by
  by_cases hactive : r.IsActive
  · rw [close_of_isActive hactive]
    rfl
  · rw [close_of_not_isActive hactive]
    rfl

/-- The reply to a request tells whether the reader stands on a row and whether it is closed. -/
theorem state_answer (r : Reader σ) (c : Connection σ) (request : ReaderRequest) :
    (r.answer c request).2.1.hasRow = request.landsOnRow r.hasRow (r.answer c request).1 ∧
      (r.answer c request).2.1.isClosed = request.leavesClosed r.isClosed (r.answer c request).1 := by
  by_cases hclose : request = .close
  · subst hclose
    exact ⟨hasRow_of_not_isActive (not_isActive_close r c), isClosed_close r c⟩
  · rcases r.answer_cases c request with ⟨hmoves, hread⟩ | ⟨hclose', -⟩ | ⟨hmoves, reply, c', hlook, -⟩
    · rw [hread, (ReaderRequest.of_moves hmoves).1, (ReaderRequest.of_moves hmoves).2]
      exact state_read r c
    · exact absurd hclose' hclose
    · rw [hlook, (ReaderRequest.of_not_moves hmoves hclose).1, (ReaderRequest.of_not_moves hmoves hclose).2]
      exact ⟨rfl, rfl⟩

/-! ## Errors without a row -/

/-- The error of telling a value without a row: a closed reader comes first, then a position without a column. -/
def rowError (r : Reader σ) (i : Nat) : Error :=
  if r.isClosed then .readerClosed
  else if i < r.fieldCount then .noCurrentRow
  else .columnOutOfBounds i r.fieldCount

/-- The error of telling the value of the column of a name without a row. -/
def nameError (r : Reader σ) (name : String) : Error :=
  if r.isClosed then .readerClosed
  else if (r.columns.bind fun cs => cs.find? name).isSome then .noCurrentRow
  else .columnNotFound name

/-- Without a row there is no place of a column. -/
theorem place_of_not_hasRow (h : r.hasRow = false) (i : Nat) : r.place i = .error .noCurrentRow := by
  have hrow : r.row? = none := by simpa [hasRow] using h
  rw [place, hrow]
  rfl

/-- The columns are at the positions below their number. -/
theorem column_cases (r : Reader σ) (i : Nat) :
    (r.isClosed = true ∧ r.column i = .error .readerClosed) ∨
      (r.isClosed = false ∧ i < r.fieldCount ∧ ∃ found, r.column i = .ok found) ∨
      r.isClosed = false ∧ ¬ i < r.fieldCount ∧ r.column i = .error (.columnOutOfBounds i r.fieldCount) := by
  rw [column]
  cases r.isClosed with
  | true => exact .inl ⟨rfl, rfl⟩
  | false =>
    cases hcolumns : r.columns with
    | none => exact .inr (.inr ⟨rfl, by simp [fieldCount, hcolumns], rfl⟩)
    | some cs =>
      have hcount : r.fieldCount = cs.size := by simp [fieldCount, hcolumns]
      rw [hcount]
      by_cases hi : i < cs.size
      · have hfound : cs.get? i = some cs.toList[i] := List.getElem?_eq_getElem hi
        exact .inr (.inl ⟨rfl, hi, cs.toList[i], by simp [hfound]⟩)
      · have hmissing : cs.get? i = none := List.getElem?_eq_none (Nat.le_of_not_lt hi)
        exact .inr (.inr ⟨rfl, hi, by simp [hmissing]⟩)

/-- Without a row a value is refused. -/
theorem value_eq_of_not_hasRow (h : r.hasRow = false) (i : Nat) : r.value i = Step.fail (r.rowError i) := by
  have hplace := place_of_not_hasRow h i
  rcases r.column_cases i with ⟨hclosed, hcolumn⟩ | ⟨hclosed, hi, found, hcolumn⟩ | ⟨hclosed, hi, hcolumn⟩
  · simp [value, rowError, hclosed, hcolumn]
  · simp [value, rowError, hclosed, hcolumn, hplace, hi]
  · simp [value, rowError, hclosed, hcolumn, hi]

/-- Without a row it is not told whether a cell is null. -/
theorem isNull_of_not_hasRow (h : r.hasRow = false) (i : Nat) : r.isNull i = .error (r.rowError i) := by
  have hplace := place_of_not_hasRow h i
  rcases r.column_cases i with ⟨hclosed, hcolumn⟩ | ⟨hclosed, hi, found, hcolumn⟩ | ⟨hclosed, hi, hcolumn⟩
  · simp [isNull, rowError, hclosed, hcolumn]
  · simp [isNull, rowError, hclosed, hcolumn, hplace, hi, Except.map]
  · simp [isNull, rowError, hclosed, hcolumn, hi]

/-- Without a row a typed reading is refused. -/
theorem get_of_not_hasRow (h : r.hasRow = false) (t : Target) (i : Nat) (c : Connection σ) :
    r.get t i c = (.error (r.rowError i), c) := by
  have hvalue : r.value i c = (.error (r.rowError i), c) := congrFun (value_eq_of_not_hasRow h i) c
  exact Step.bind_of_error hvalue

/-- A column that is found by name has a position below the number of columns. -/
theorem lt_fieldCount_of_find? {cs : Columns} (hcolumns : r.columns = some cs) {name : String} {i : Nat}
    (h : cs.find? name = some i) : i < r.fieldCount := by
  obtain ⟨hi, -⟩ := List.findIdx?_eq_some_iff_getElem.1 h
  rw [fieldCount, hcolumns]
  exact hi

/-- Without a row a typed reading by name is refused. -/
theorem getByName_of_not_hasRow (h : r.hasRow = false) (t : Target) (name : String) (c : Connection σ) :
    r.getByName t name c = (.error (r.nameError name), c) := by
  cases hclosed : r.isClosed with
  | true => simp [getByName, ordinal, nameError, hclosed]
  | false =>
    cases hfound : r.columns.bind fun cs => cs.find? name with
    | none => simp [getByName, ordinal, nameError, hclosed, hfound]
    | some i =>
      obtain ⟨cs, hcolumns, hi⟩ := Option.bind_eq_some_iff.1 hfound
      have hget := get_of_not_hasRow h t i c
      simp only [rowError, hclosed, lt_fieldCount_of_find? hcolumns hi] at hget
      simpa [getByName, ordinal, nameError, hclosed, hfound] using hget

/-- With nothing to copy nothing is looked at. -/
theorem values_of_min_eq_zero {buffer : List Value} (h : min buffer.length r.fieldCount = 0) (c : Connection σ) :
    r.values buffer c = (.ok 0, buffer, c) := by
  rw [values, h]
  cases buffer <;> rfl

/-- Without a row nothing is copied, and the buffer is left as it is, if there is anything to copy. -/
theorem values_of_not_hasRow (h : r.hasRow = false) {buffer : List Value} (hcount : min buffer.length r.fieldCount ≠ 0)
    (c : Connection σ) : r.values buffer c = (.error (r.rowError 0), buffer, c) := by
  cases buffer with
  | nil => simp at hcount
  | cons old rest =>
    have hpos := Nat.pos_of_ne_zero hcount
    have hvalue : r.value 0 c = (.error (r.rowError 0), c) := congrFun (value_eq_of_not_hasRow h 0) c
    simp only [values, copyFrom, if_pos hpos, hvalue]
    rfl

/-! ## Accessors without a row -/

/-- What the accessors of values answer without a row: an error, which on a closed reader is that it is closed. Only
a buffer or a reader with no places to copy is answered that nothing was copied. -/
structure RefusesValues (r : Reader σ) (c : Connection σ) : Prop where
  isNull : ∀ i, r.isNull i = .error (r.rowError i)
  value : ∀ i, r.value i c = (.error (r.rowError i), c)
  get : ∀ t i, r.get t i c = (.error (r.rowError i), c)
  getByName : ∀ t name, r.getByName t name c = (.error (r.nameError name), c)
  values : ∀ buffer, min buffer.length r.fieldCount ≠ 0 → r.values buffer c = (.error (r.rowError 0), buffer, c)
  nothingToCopy : ∀ buffer, min buffer.length r.fieldCount = 0 → r.values buffer c = (.ok 0, buffer, c)
  closed : r.isClosed = true → (∀ i, r.rowError i = .readerClosed) ∧ ∀ name, r.nameError name = .readerClosed

/-- Without a row all accessors refuse values. -/
theorem refusesValues_of_not_hasRow (h : r.hasRow = false) (c : Connection σ) : RefusesValues r c where
  isNull := isNull_of_not_hasRow h
  value i := congrFun (value_eq_of_not_hasRow h i) c
  get t i := get_of_not_hasRow h t i c
  getByName t name := getByName_of_not_hasRow h t name c
  values _ hcount := values_of_not_hasRow h hcount c
  nothingToCopy _ hcount := values_of_min_eq_zero hcount c
  closed hclosed := ⟨fun i => by rw [rowError, if_pos hclosed], fun name => by rw [nameError, if_pos hclosed]⟩

/-- After any requests to a reader that a command has delivered, over any executor, there is a current row exactly if
the last request that moved or closed the reader found a row, and the reader is closed exactly if it has been closed or
could not be moved. Whenever there is no row, no accessor tells a value: each answers its error and leaves the
connection as it is, and so does copying the row if there is something to copy. -/
theorem refusesValues_answerAll {cmd cmd' : Command} {c c' c'' : Connection σ} {r r' : Reader σ}
    {requests : List ReaderRequest} {replies : List ReaderReply} (hreader : cmd.executeReader c = (.ok r, cmd', c'))
    (hasked : r.answerAll c' requests = (replies, r', c'')) :
    r'.hasRow = onRow requests replies ∧ r'.isClosed = hasClosed requests replies ∧
      (r'.hasRow = false → RefusesValues r' c'') := by
  have hstart : r.hasRow = false ∧ r.isClosed = false := by
    rcases Command.reader_of_executeReader hreader with ⟨statement, cursor, rfl⟩ | ⟨n, s, rfl, -⟩ <;>
      exact ⟨rfl, rfl⟩
  have hrow := throughRequests_answerAll (fun r c request => (state_answer r c request).1) r c' requests
  have hclosed := throughRequests_answerAll (fun r c request => (state_answer r c request).2) r c' requests
  rw [hasked, hstart.1] at hrow
  rw [hasked, hstart.2] at hclosed
  exact ⟨hrow, hclosed, fun h => refusesValues_of_not_hasRow h c''⟩

/-- A connection over which the next query has one row, and the query after it none. -/
def connectionToOneRow : Connection Scripted :=
  { executor := { results := [⟨⟨[⟨"n", 23⟩]⟩, [[.int4 1]]⟩] } }

/-- A reader that is read to its end, and then closed. -/
theorem refusesValues_answerAll_end :
    ∃ (cmd' : Command) (c' c₁ c₂ : Connection Scripted) (r r₁ r₂ : Reader Scripted)
      (replies replies' : List ReaderReply),
      Command.executeReader { text := "select n" } connectionToOneRow = (.ok r, cmd', c') ∧
      r.answerAll c' [.read, .value 0, .read] = (replies, r₁, c₁) ∧
      r.answerAll c' [.read, .read, .close] = (replies', r₂, c₂) ∧
      (r₁.hasRow = false ∧ r₁.isNull 0 = .error .noCurrentRow ∧ r₁.value 1 c₁ = (.error (.columnOutOfBounds 1 1), c₁) ∧
        r₁.getByName .int32 "N" c₁ = (.error .noCurrentRow, c₁) ∧
        r₁.values [.null] c₁ = (.error .noCurrentRow, [.null], c₁)) ∧
      r₂.isClosed = true ∧ (∀ i, r₂.value i c₂ = (.error .readerClosed, c₂)) ∧
      r₂.values [.null, .null] c₂ = (.error .readerClosed, [.null, .null], c₂) := by
  have hrun : ∃ (cmd' : Command) (c' c₁ c₂ : Connection Scripted) (r r₁ r₂ : Reader Scripted)
      (replies replies' : List ReaderReply),
      (Command.executeReader { text := "select n" } connectionToOneRow = (.ok r, cmd', c') ∧
        r.answerAll c' [.read, .value 0, .read] = (replies, r₁, c₁) ∧
        r.answerAll c' [.read, .read, .close] = (replies', r₂, c₂)) ∧
      (r₁.hasRow = false ∧ r₁.rowError 0 = .noCurrentRow ∧ r₁.rowError 1 = .columnOutOfBounds 1 1 ∧
        r₁.nameError "N" = .noCurrentRow ∧ r₁.fieldCount = 1) ∧
      r₂.hasRow = false ∧ r₂.isClosed = true ∧ r₂.fieldCount = 1 :=
    ⟨_, _, _, _, _, _, _, _, _, ⟨rfl, rfl, rfl⟩, ⟨rfl, rfl, rfl, rfl, rfl⟩, rfl, rfl, rfl⟩
  obtain ⟨cmd', c', c₁, c₂, r, r₁, r₂, replies, replies', ⟨hreader, hend, hclose⟩,
    ⟨hrow, hzero, hone, hname, hcount⟩, hrow', hclosed, hcount'⟩ := hrun
  have hrefuses := (refusesValues_answerAll hreader hend).2.2 hrow
  have hrefuses' := (refusesValues_answerAll hreader hclose).2.2 hrow'
  have herror := (hrefuses'.closed hclosed).1
  refine ⟨cmd', c', c₁, c₂, r, r₁, r₂, replies, replies', hreader, hend, hclose,
    ⟨hrow, hzero ▸ hrefuses.isNull 0, hone ▸ hrefuses.value 1, hname ▸ hrefuses.getByName .int32 "N",
      hzero ▸ hrefuses.values [.null] (by rw [hcount]; decide)⟩, hclosed, fun i => herror i ▸ hrefuses'.value i,
    herror 0 ▸ hrefuses'.values [.null, .null] (by rw [hcount']; decide)⟩

/-- Before the first row, and on a reader that was closed before it, copying answers that nothing was copied, although
the buffer has a place for a value. -/
theorem values_without_columns :
    ∃ (cmd' : Command) (c' c₁ : Connection Scripted) (r r₁ : Reader Scripted) (replies : List ReaderReply),
      Command.executeReader { text := "select n" } connectionToOneRow = (.ok r, cmd', c') ∧
      r.answerAll c' [.close] = (replies, r₁, c₁) ∧
      r.hasRow = false ∧ r.values [.null] c' = (.ok 0, [.null], c') ∧
      r₁.hasRow = false ∧ r₁.isClosed = true ∧ r₁.values [.null] c₁ = (.ok 0, [.null], c₁) :=
  ⟨_, _, _, _, _, _, rfl, rfl, rfl, rfl, rfl, rfl, rfl⟩

end Reader

end InProcessSql
