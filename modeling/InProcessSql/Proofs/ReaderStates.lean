import InProcessSql.Executor.Scripted
import InProcessSql.Proofs.ReaderRefinement

/-!
# States of a reader

The ten parts of a reader are updated by reading, its error path, releasing and closing, each in its own order.
`ReaderParts.Sound` says what they say of each other in any state, and `ReaderParts.Continues` what a request never
takes back. Every request keeps both, over every executor, so that `ReaderParts.states_answerAll` holds of all readers
that a command delivers.
-/

namespace InProcessSql

variable {σ : Type} [Executor σ]

/-! ## Asking for columns -/

/-- A number that the operations on an open cursor leave as it is, apart from asking for the columns, which counts. -/
structure CountsColumns (asked : σ → Nat) : Prop where
  columns : ∀ (count : Nat) (s : σ), asked (Executor.columns count s).2 = asked s + 1
  fetch : ∀ (cursor : Executor.Cursor σ) (s : σ), asked (Executor.fetch cursor s).2 = asked s
  dimensions : ∀ s : σ, asked (Executor.dimensions s).2 = asked s
  currentRow : ∀ (places : List (Executor.Place σ)) (s : σ), asked (Executor.currentRow places s).2 = asked s
  readDatum : ∀ (datum : Executor.Datum σ) (oid : Oid) (s : σ), asked (Executor.readDatum datum oid s).2 = asked s
  finish : ∀ s : σ, asked (Executor.finish s) = asked s

namespace CountsColumns

variable {asked : σ → Nat}

/-- A fetch asks for the columns once at most, and only while they are not known. It then finds a row or fails. -/
theorem of_fetching (h : CountsColumns asked) {cursor : Executor.Cursor σ} {known : Option Columns}
    {previous : Option (List (Executor.Place σ))} {s t : σ}
    {result : Except Error (Option (Columns × List (Executor.Place σ)))}
    (hfetching : Reader.Fetching cursor known previous s result t) :
    asked t = asked s ∨ asked t = asked s + 1 ∧ known = none ∧ result ≠ .ok none := by
  have hfetched : ∀ {result u}, Executor.fetch cursor s = (result, u) → asked u = asked s := by
    intro result u hfetch
    rw [← h.fetch cursor s, hfetch]
  have hsized : ∀ {u v : σ} {size}, Executor.dimensions u = (size, v) → asked v = asked u := by
    intro u v size hsize
    rw [← h.dimensions u, hsize]
  have htold : ∀ {u v : σ} {count result}, Executor.columns count u = (result, v) → asked v = asked u + 1 := by
    intro u v count result hcolumns
    rw [← h.columns count u, hcolumns]
  have hwritten : ∀ {u v : σ} {places row}, Executor.currentRow places u = (row, v) → asked v = asked u := by
    intro u v places row hrow
    rw [← h.currentRow places u, hrow]
  cases hfetching with
  | fetchFailed hfetch => exact .inl (hfetched hfetch)
  | noRow hfetch hsize => exact .inl ((hsized hsize).trans (hfetched hfetch))
  | columnsFailed hfetch hsize hknown hcolumns =>
    refine .inr ⟨?_, hknown, fun hresult => by cases hresult⟩
    rw [htold hcolumns, hsized hsize, hfetched hfetch]
  | firstRow hfetch hsize hknown hcolumns hrow =>
    refine .inr ⟨?_, hknown, fun hresult => by cases hresult⟩
    rw [hwritten hrow, htold hcolumns, hsized hsize, hfetched hfetch]
  | laterRow hfetch hsize hknown hrow =>
    exact .inl ((hwritten hrow).trans ((hsized hsize).trans (hfetched hfetch)))

/-- Looking at values does not ask for the columns. -/
theorem of_looked (h : CountsColumns asked) {r : Reader σ} {c c' : Connection σ} (hlooked : Reader.Looked r c c') :
    asked c'.executor = asked c.executor := by
  induction hlooked with
  | none => rfl
  | @value c' hlooked i ih =>
    rcases r.executor_value_cases i c' with hvalue | ⟨datum, oid, hvalue⟩
    · rw [hvalue, ih]
    · rw [hvalue, h.readDatum, ih]

end CountsColumns

/-- An executor that counts how often it is asked for the columns. -/
structure Counted (σ : Type) where
  executor : σ
  asked : Nat := 0

namespace Counted

/-- Works on the executor that counts. -/
def onExecutor {α : Type} (f : σ → α × σ) (w : Counted σ) : α × Counted σ :=
  ((f w.executor).1, { w with executor := (f w.executor).2 })

instance : Executor (Counted σ) where
  Statement := Executor.Statement σ
  Cursor := Executor.Cursor σ
  Datum := Executor.Datum σ
  noDatum := Executor.noDatum
  ready := onExecutor Executor.ready
  prepare sql oids := onExecutor (Executor.prepare sql oids)
  execute sql readOnly countLimit := onExecutor (Executor.execute sql readOnly countLimit)
  executePrepared statement places readOnly countLimit :=
    onExecutor (Executor.executePrepared statement places readOnly countLimit)
  openCursor statement places := onExecutor (Executor.openCursor statement places)
  fetch cursor := onExecutor (Executor.fetch cursor)
  dimensions := onExecutor Executor.dimensions
  columns count w := onExecutor (Executor.columns count) { w with asked := w.asked + 1 }
  currentRow places := onExecutor (Executor.currentRow places)
  length_currentRow places w := Executor.length_currentRow places w.executor
  finish w := { w with executor := Executor.finish w.executor }
  readDatum datum oid := onExecutor (Executor.readDatum datum oid)
  writeDatum v oid := onExecutor (Executor.writeDatum v oid)

/-- Any executor can be made to count. -/
theorem countsColumns_asked : CountsColumns (asked : Counted σ → Nat) :=
  ⟨fun _ _ => rfl, fun _ _ => rfl, fun _ => rfl, fun _ _ => rfl, fun _ _ _ => rfl, fun _ => rfl⟩

end Counted

/-! ## Counting rows -/

/-- The number of requests that have moved a reader to a row. -/
def rowsRead (requests : List ReaderRequest) (replies : List ReaderReply) : Nat :=
  (requests.zip replies).countP fun answered => answered.1.moves && answered.2.isTrue

/-- A request adds a row if it moves the reader to one. -/
theorem rowsRead_cons (request : ReaderRequest) (requests : List ReaderRequest) (reply : ReaderReply)
    (replies : List ReaderReply) :
    rowsRead (request :: requests) (reply :: replies)
      = (if request.moves && reply.isTrue then 1 else 0) + rowsRead requests replies := by
  rw [rowsRead, List.zip_cons_cons, List.countP_cons, Nat.add_comm]
  rfl

namespace ReaderParts

variable {p p' p'' : ReaderParts σ} {c c' c'' : Connection σ}

/-! ## What is never taken back -/

/-- What holds of a reader and its connection once it held before some requests. -/
structure Continues (p : ReaderParts σ) (c : Connection σ) (p' : ReaderParts σ) (c' : Connection σ) : Prop where
  recordsAffected : p'.recordsAffected = p.recordsAffected
  columns : ∀ cs, p.columns = some cs → p'.columns = some cs
  /-- A reader that is not active stays so, and nothing happens on the connection. -/
  inactive : p.stage ≠ .active → p'.stage ≠ .active ∧ c' = c
  closed : p.stage = .closed → p'.stage = .closed
  /-- The executor is asked for the columns once at most, and no more after that. -/
  asked : ∀ asked : σ → Nat, CountsColumns asked → asked c'.executor = asked c.executor ∨
    asked c'.executor = asked c.executor + 1 ∧ p.columns = none ∧ p.stage = .active ∧
      (p'.columns ≠ none ∨ p'.stage ≠ .active)

theorem Continues.refl (p : ReaderParts σ) (c : Connection σ) : Continues p c p c :=
  ⟨rfl, fun _ hcs => hcs, fun h => ⟨h, rfl⟩, id, fun _ _ => .inl rfl⟩

/-- Known columns are not asked for. -/
theorem Continues.asked_eq (h : Continues p c p' c') {asked : σ → Nat} (hasked : CountsColumns asked)
    (hdone : p.columns ≠ none ∨ p.stage ≠ .active) : asked c'.executor = asked c.executor := by
  rcases h.asked asked hasked with hsame | ⟨-, hnone, hactive, -⟩
  · exact hsame
  · rcases hdone with hknown | hinactive
    · exact absurd hnone hknown
    · exact absurd hactive hinactive

/-- What each part of a run does not take back, the run does not. -/
theorem Continues.trans (h : Continues p c p' c') (h' : Continues p' c' p'' c'') : Continues p c p'' c'' where
  recordsAffected := h'.recordsAffected.trans h.recordsAffected
  columns cs hcs := h'.columns cs (h.columns cs hcs)
  inactive hinactive := by
    obtain ⟨hinactive', rfl⟩ := h.inactive hinactive
    exact h'.inactive hinactive'
  closed hclosed := h'.closed (h.closed hclosed)
  asked asked hasked := by
    have hdone : p'.columns ≠ none ∨ p'.stage ≠ .active → p''.columns ≠ none ∨ p''.stage ≠ .active := by
      rintro (hknown | hinactive)
      · obtain ⟨cs, hcs⟩ := Option.ne_none_iff_exists'.1 hknown
        exact .inl (by rw [h'.columns cs hcs]; exact Option.some_ne_none cs)
      · exact .inr (h'.inactive hinactive).1
    rcases h.asked asked hasked with hsame | ⟨honce, hnone, hactive, hafter⟩
    · rcases h'.asked asked hasked with hsame' | ⟨honce', hnone', hactive', hafter'⟩
      · exact .inl (hsame'.trans hsame)
      -- The second part has asked, so that the first has neither learnt the columns nor left off.
      · refine .inr ⟨by rw [honce', hsame], ?_, ?_, hafter'⟩
        · cases hcolumns : p.columns with
          | none => rfl
          | some cs => rw [h.columns cs hcolumns] at hnone'; cases hnone'
        · exact Decidable.byContradiction fun hinactive => (h.inactive hinactive).1 hactive'
    · exact .inr ⟨by rw [h'.asked_eq hasked hafter, honce], hnone, hactive, hdone hafter⟩

/-- Releasing takes nothing back but the row. -/
theorem continues_released (hactive : p.stage = .active) {stage : Stage} (hstage : stage ≠ .active)
    {event : Connection σ → Connection σ} (hevent : ∀ c, (event c).executor = c.executor)
    (hasked : ∀ asked : σ → Nat, CountsColumns asked → asked c'.executor = asked c.executor ∨
      asked c'.executor = asked c.executor + 1 ∧ p.columns = none) :
    Continues p c (p.released stage) (event c').release where
  recordsAffected := rfl
  columns _ hcs := hcs
  inactive hinactive := absurd hactive hinactive
  closed hclosed := by rw [hactive] at hclosed; cases hclosed
  asked asked hcounts := by
    have hreleased : asked (event c').release.executor = asked c'.executor := by
      rw [← hevent c']
      exact hcounts.finish (event c').executor
    rcases hasked asked hcounts with hsame | ⟨honce, hnone⟩
    · exact .inl (hreleased.trans hsame)
    · exact .inr ⟨hreleased.trans honce, hnone, hactive, .inr hstage⟩

/-- Reading takes nothing back. -/
theorem continues_read (h : p.Sound) (c : Connection σ) : Continues p c (p.read c).2.1 (p.read c).2.2 := by
  rcases p.read_cases h c with ⟨-, hread⟩ | ⟨hactive, cursor, -, hread⟩
  · rw [hread]
    exact .refl p c
  have hfetching := Reader.fetching_fetchRow cursor p.columns p.row? c
  rcases hread with ⟨cs, row, c', hfetch, hread⟩ | ⟨c', hfetch, hread⟩ | ⟨e, c', hfetch, hread⟩ <;>
    rw [hfetch] at hfetching <;> rw [hread]
  · obtain ⟨-, hcs⟩ := h.length_row hactive hfetching
    refine ⟨rfl, fun cs' hcs' => by rw [hcs cs' hcs']; rfl, fun hinactive => absurd hactive hinactive, ?_, ?_⟩
    · intro hclosed
      rw [hactive] at hclosed
      cases hclosed
    · intro asked hasked
      rcases hasked.of_fetching hfetching with hsame | ⟨honce, hnone, -⟩
      · exact .inl hsame
      · exact .inr ⟨honce, hnone, hactive, .inl (Option.some_ne_none cs)⟩
  -- Without a row the columns have not been asked for, and the session is ended.
  · refine continues_released hactive (by decide) (fun c => rfl) fun asked hasked => ?_
    rcases hasked.of_fetching hfetching with hsame | ⟨-, -, hrow⟩
    · exact .inl hsame
    · exact absurd rfl hrow
  · refine continues_released hactive (by decide) (fun c => rfl) fun asked hasked => ?_
    rcases hasked.of_fetching hfetching with hsame | ⟨honce, hnone, -⟩
    · exact .inl hsame
    · exact .inr ⟨honce, hnone⟩

/-- Closing takes nothing back. -/
theorem continues_close (h : p.Sound) (c : Connection σ) : Continues p c (p.close c).1 (p.close c).2 := by
  by_cases hactive : p.stage = .active
  · rw [close_of_active h hactive]
    have hlog : ∀ d : Connection σ, (id d).executor = d.executor := fun _ => rfl
    exact continues_released hactive (by decide) hlog fun _ _ => .inl rfl
  · have hclosed : Stage.closed ≠ .active := by decide
    rw [close_of_not_active h hactive]
    exact ⟨rfl, fun _ hcs => hcs, fun _ => ⟨hclosed, rfl⟩, fun _ => rfl, fun _ _ => .inl rfl⟩

/-- A read counts a row exactly if it answers that there is one. -/
theorem rowsFetched_read (h : p.Sound) (c : Connection σ) :
    (p.read c).2.1.rowsFetched
      = p.rowsFetched + if (ReaderReply.ofExcept .flag (p.read c).1).isTrue then 1 else 0 := by
  rcases p.read_cases h c with ⟨-, hread⟩ | ⟨-, cursor, -, hread⟩
  · rw [hread]
    rfl
  · rcases hread with ⟨cs, row, c', -, hread⟩ | ⟨c', -, hread⟩ | ⟨e, c', -, hread⟩ <;> rw [hread] <;> rfl

/-- Closing counts no row. -/
theorem rowsFetched_close (h : p.Sound) (c : Connection σ) : (p.close c).1.rowsFetched = p.rowsFetched := by
  by_cases hactive : p.stage = .active
  · rw [close_of_active h hactive]
    rfl
  · rw [close_of_not_active h hactive]
    rfl

/-! ## Requests -/

/-- A request is answered. It keeps the parts of the reader together, takes nothing back, and counts the row that it
moves to. -/
theorem step_answer? (h : p.Sound) (c : Connection σ) (request : ReaderRequest) :
    ∃ reply p' c', p.answer? c request = some (reply, p', c') ∧ p'.Sound ∧ Continues p c p' c' ∧
      p'.rowsFetched = p.rowsFetched + if request.moves && reply.isTrue then 1 else 0 := by
  rcases p.answer?_cases h c request with ⟨hmoves, hread⟩ | ⟨rfl, hclose⟩ | ⟨hmoves, reply, c', hlook, -, hlooked⟩
  · refine ⟨_, _, _, hread, h.read c, continues_read h c, ?_⟩
    rw [hmoves, Bool.true_and]
    exact rowsFetched_read h c
  · exact ⟨.done, (p.close c).1, (p.close c).2, hclose, h.close c, continues_close h c, rowsFetched_close h c⟩
  · refine ⟨reply, p, c', hlook, h, ⟨rfl, fun _ hcs => hcs, fun hinactive => ⟨hinactive, ?_⟩, id, ?_⟩, ?_⟩
    · have hrow : p.toReader.hasRow = false :=
        Reader.hasRow_of_not_isActive (mt (isActive_toReader_iff h).1 hinactive)
      exact hlooked.eq_of_not_hasRow hrow
    · exact fun asked hasked => .inl (hasked.of_looked hlooked)
    · rw [hmoves]
      rfl

/-- Any requests are answered, one after the other, with the same effect. -/
theorem run_answerAll? (h : p.Sound) (c : Connection σ) (requests : List ReaderRequest) :
    ∃ replies p' c', p.answerAll? c requests = some (replies, p', c') ∧ p'.Sound ∧ Continues p c p' c' ∧
      p'.rowsFetched = p.rowsFetched + rowsRead requests replies := by
  induction requests generalizing p c with
  | nil => exact ⟨[], p, c, rfl, h, .refl p c, rfl⟩
  | cons request rest ih =>
    obtain ⟨reply, p₁, c₁, hfirst, hsound, hcontinues, hcount⟩ := step_answer? h c request
    obtain ⟨replies, p₂, c₂, hrest, hsound', hcontinues', hcount'⟩ := ih hsound c₁
    refine ⟨reply :: replies, p₂, c₂, ?_, hsound', hcontinues.trans hcontinues', ?_⟩
    · simp only [answerAll?, hfirst, hrest, Option.bind_eq_bind, Option.bind_some]
      rfl
    · rw [hcount', hcount, rowsRead_cons, Nat.add_assoc]

/-! ## Readers of commands -/

/-- A reader that a command delivers has parts that go together, and has fetched no row. -/
theorem sound_of_executeParts {cmd cmd' : Command} {c c' : Connection σ}
    (h : cmd.executeParts c = (.ok p, cmd', c')) : p.Sound ∧ p.rowsFetched = 0 := by
  obtain ⟨hreader, hsound⟩ := cmd.executeReader_eq c
  rw [h] at hreader hsound
  refine ⟨hsound p rfl, ?_⟩
  show p.toReader.rowsFetched = 0
  rcases Command.reader_of_executeReader hreader with ⟨statement, cursor, hp⟩ | ⟨n, s, hp, -⟩ <;> rw [hp] <;> rfl

/-- Over any executor, and for any requests to a reader that a command has delivered, every request is answered: no
position is looked up that a buffer does not have. In any state in between,
* a reader that is not active has no session, cursor, statement or row;
* a row is that of an active reader that knows its columns, and both buffers have a place for each of them;
* the reader has counted the rows that it was moved to, and tells the affected rows that it told at first.

From there on, whatever comes, columns that are known stay the same and are not asked for again, which has happened once
at most; once the reader is not active, reading finds no row and nothing happens on the connection; and a closed reader
stays closed. -/
theorem states_answerAll {cmd cmd' : Command} (hreader : cmd.executeParts c = (.ok p, cmd', c'))
    (earlier later : List ReaderRequest) :
    ∃ replies p₁ c₁ replies' p₂ c₂,
      p.answerAll? c' earlier = some (replies, p₁, c₁) ∧ p₁.answerAll? c₁ later = some (replies', p₂, c₂) ∧
      (p₁.stage ≠ .active →
        p₁.session = none ∧ p₁.cursor = none ∧ p₁.statement = none ∧ p₁.hasRow = false) ∧
      (p₁.hasRow = true →
        p₁.stage = .active ∧ ∃ cs, p₁.columns = some cs ∧ p₁.values.length = cs.size ∧ p₁.nulls.length = cs.size) ∧
      (∀ i found, p₁.hasRow = true → p₁.column i = .ok found → i < p₁.values.length ∧ i < p₁.nulls.length) ∧
      p₁.rowsFetched = rowsRead earlier replies ∧ p₁.recordsAffected = p.recordsAffected ∧
      (∀ cs, p₁.columns = some cs → p₂.columns = some cs) ∧
      (∀ asked, CountsColumns asked → asked c₁.executor ≤ asked c'.executor + 1 ∧
        (p₁.columns ≠ none → asked c₂.executor = asked c₁.executor)) ∧
      (p₁.stage ≠ .active → c₂ = c₁ ∧ p₂.read c₂ = (.ok false, p₂, c₁)) ∧
      (p₁.stage = .closed → p₂.stage = .closed) := by
  obtain ⟨hsound, hnone⟩ := sound_of_executeParts hreader
  obtain ⟨replies, p₁, c₁, hearlier, hsound₁, hcontinues, hcount⟩ := run_answerAll? hsound c' earlier
  obtain ⟨replies', p₂, c₂, hlater, -, hmore, -⟩ := run_answerAll? hsound₁ c₁ later
  rw [hnone, Nat.zero_add] at hcount
  refine ⟨replies, p₁, c₁, replies', p₂, c₂, hearlier, hlater, ?_, hsound₁.row, ?_, hcount,
    hcontinues.recordsAffected, hmore.columns, ?_, ?_, hmore.closed⟩
  · intro hinactive
    obtain ⟨hsession, hstatement, hcursor, hrow⟩ := hsound₁.inactive hinactive
    exact ⟨hsession, hcursor, hstatement, hrow⟩
  · intro i found hrow hfound
    exact hsound₁.lt_length hrow hfound
  · intro asked hasked
    refine ⟨?_, fun hknown => hmore.asked_eq hasked (.inl hknown)⟩
    rcases hcontinues.asked asked hasked with hsame | ⟨honce, -⟩ <;> omega
  · intro hinactive
    obtain ⟨hinactive', rfl⟩ := hmore.inactive hinactive
    exact ⟨rfl, by rw [read, if_neg hinactive']⟩

/-- A connection over which the next query has two rows. -/
def connectionToTwoRows : Connection (Counted Scripted) :=
  { executor := ⟨{ results := [⟨⟨[⟨"n", 23⟩]⟩, [[.int4 1], [.null]]⟩] }, 0⟩ }

/-- A reader over two rows that is read to its end, and asks for the columns once. -/
theorem states_of_two_rows :
    ∃ (cmd' : Command) (c' c₁ c₂ : Connection (Counted Scripted)) (p p₁ p₂ : ReaderParts (Counted Scripted))
      (replies replies' : List ReaderReply),
      (Command.executeParts { text := "select n" } connectionToTwoRows = (.ok p, cmd', c') ∧
        p.answerAll? c' [.read, .value 0, .nextResult, .isNull 0] = some (replies, p₁, c₁) ∧
        p₁.answerAll? c₁ [.get .int32 0, .read, .isNull 0, .read] = some (replies', p₂, c₂)) ∧
      (p₁.rowsFetched = 2 ∧ p₁.hasRow = true ∧ p₂.stage = .exhausted ∧ p₂.hasRow = false ∧ p₂.rowsFetched = 2) ∧
      p₁.rowsFetched = rowsRead [.read, .value 0, .nextResult, .isNull 0] replies ∧
      c₂.executor.asked = c₁.executor.asked ∧ c₁.executor.asked ≤ 1 ∧
      ∃ cs, p₁.columns = some cs ∧ p₁.values.length = cs.size ∧ p₁.nulls.length = cs.size := by
  have hrun : ∃ (cmd' : Command) (c' c₁ c₂ : Connection (Counted Scripted))
      (p p₁ p₂ : ReaderParts (Counted Scripted)) (replies replies' : List ReaderReply),
      (Command.executeParts { text := "select n" } connectionToTwoRows = (.ok p, cmd', c') ∧
        p.answerAll? c' [.read, .value 0, .nextResult, .isNull 0] = some (replies, p₁, c₁) ∧
        p₁.answerAll? c₁ [.get .int32 0, .read, .isNull 0, .read] = some (replies', p₂, c₂)) ∧
      (p₁.rowsFetched = 2 ∧ p₁.hasRow = true ∧ p₂.stage = .exhausted ∧ p₂.hasRow = false ∧ p₂.rowsFetched = 2) ∧
      c'.executor.asked = 0 :=
    ⟨_, _, _, _, _, _, _, _, _, ⟨rfl, rfl, rfl⟩, ⟨rfl, rfl, rfl, rfl, rfl⟩, rfl⟩
  obtain ⟨cmd', c', c₁, c₂, p, p₁, p₂, replies, replies', ⟨hreader, hearlier, hlater⟩, hfacts, hnone⟩ := hrun
  obtain ⟨_, _, _, _, _, _, hfirst, hmore, -, hrow, -, hcount, -, -, hasked, -⟩ :=
    states_answerAll hreader [.read, .value 0, .nextResult, .isNull 0] [.get .int32 0, .read, .isNull 0, .read]
  obtain ⟨rfl, rfl, rfl⟩ : _ = replies ∧ _ = p₁ ∧ _ = c₁ := by
    simpa using hfirst.symm.trans hearlier
  obtain ⟨rfl, rfl, rfl⟩ : _ = replies' ∧ _ = p₂ ∧ _ = c₂ := by
    simpa using hmore.symm.trans hlater
  obtain ⟨-, cs, hcs, hlengths⟩ := hrow hfacts.2.1
  obtain ⟨honce, hkept⟩ := hasked Counted.asked Counted.countsColumns_asked
  rw [hnone] at honce
  refine ⟨cmd', c', _, _, p, _, _, _, _, ⟨hreader, hearlier, hlater⟩, hfacts, hcount, hkept ?_, honce, cs, hcs,
    hlengths⟩
  rw [hcs]
  exact Option.some_ne_none cs

end ReaderParts

end InProcessSql
