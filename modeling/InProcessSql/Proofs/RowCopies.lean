import InProcessSql.Proofs.TypedReads

/-!
# Copying a row

A row is copied by telling its values one after the other and writing each over the buffer, up to the first one that
cannot be told. `WritesPrefix` says what a buffer is then: the values that were told, and behind them what was there
before. `Reader.row_copied_as_prefix` says so of every reader over every executor, and that the values are those that
the reader tells by themselves, before and after, if the executor reads a datum the same way each time.
-/

namespace InProcessSql

/-- A buffer has been written over with what has been told at each position, up to so many positions or to the first
one where an error was told. -/
structure WritesPrefix (told : Nat → Except Error Value) (count : Nat) (buffer : List Value)
    (outcome : Except Error Nat) (written : List Value) : Prop where
  length_eq : written.length = buffer.length
  ok : ∀ n, outcome = .ok n → n = count ∧
    (∀ i < count, ∃ v, told i = .ok v ∧ written[i]? = some v) ∧ ∀ i, count ≤ i → written[i]? = buffer[i]?
  error : ∀ e, outcome = .error e → ∃ j < count, told j = .error e ∧
    (∀ i < j, ∃ v, told i = .ok v ∧ written[i]? = some v) ∧ ∀ i, j ≤ i → written[i]? = buffer[i]?

namespace Reader

variable {σ : Type} [Executor σ]

/-- The connection after the values of so many columns have been told, from a position on. -/
def afterTelling (r : Reader σ) (i : Nat) (c : Connection σ) : Nat → Connection σ
  | 0 => c
  | k + 1 => afterTelling r (i + 1) (r.value i c).2 k

/-- What is told of a column after the values of those before it. -/
def toldInTurn (r : Reader σ) (c : Connection σ) (k : Nat) : Except Error Value :=
  (r.value k (r.afterTelling 0 c k)).1

/-- Telling further values only looks at values. -/
theorem looked_afterTelling (r : Reader σ) {c c' : Connection σ} (h : Looked r c c') (i k : Nat) :
    Looked r c (r.afterTelling i c' k) := by
  induction k generalizing i c' with
  | zero => exact h
  | succ k ih => exact ih (.value h i) (i + 1)

/-- Copying from a position on writes the values that are told, up to the last place or the first error. -/
theorem exists_told_of_copyFrom (r : Reader σ) (count i : Nat) (buffer : List Value) (c : Connection σ) :
    ∃ vs : List Value, (∀ k v, vs[k]? = some v → (r.value (i + k) (r.afterTelling i c k)).1 = .ok v) ∧
      (r.copyFrom count i buffer c).2.1 = vs ++ buffer.drop vs.length ∧
      (((r.copyFrom count i buffer c).1 = .ok () ∧ vs.length = min buffer.length (count - i)) ∨
        ∃ e, (r.copyFrom count i buffer c).1 = .error e ∧ vs.length < min buffer.length (count - i) ∧
          (r.value (i + vs.length) (r.afterTelling i c vs.length)).1 = .error e) := by
  induction buffer generalizing i c with
  | nil => exact ⟨[], nofun, rfl, .inl ⟨rfl, by simp⟩⟩
  | cons old rest ih =>
    -- Copying ends with the columns, if it does not end with the buffer before.
    by_cases hi : i < count
    · have hroom : min (old :: rest).length (count - i) = min rest.length (count - (i + 1)) + 1 := by
        rw [List.length_cons]
        omega
      rw [copyFrom, hroom]
      simp only [if_pos hi]
      rcases hvalue : r.value i c with ⟨e | v, c'⟩
      · refine ⟨[], nofun, rfl, .inr ⟨e, rfl, Nat.succ_pos _, ?_⟩⟩
        exact congrArg Prod.fst hvalue
      · obtain ⟨vs, htold, hwritten, hend⟩ := ih (i + 1) c'
        have hnext : ∀ k, r.afterTelling i c (k + 1) = r.afterTelling (i + 1) c' k := by
          intro k
          rw [afterTelling, hvalue]
        have hplace : ∀ k, i + (k + 1) = i + 1 + k := by omega
        refine ⟨v :: vs, ?_, ?_, ?_⟩
        · intro k u hk
          cases k with
          | zero =>
            obtain rfl : v = u := Option.some.inj hk
            exact congrArg Prod.fst hvalue
          | succ k =>
            rw [hnext, hplace]
            exact htold k u hk
        · simp only [hwritten]
          rfl
        · rw [List.length_cons, hnext, hplace vs.length]
          rcases hend with ⟨hok, hlength⟩ | ⟨e, herror, hlength, hfails⟩
          · exact .inl ⟨hok, congrArg (· + 1) hlength⟩
          · exact .inr ⟨e, herror, Nat.succ_lt_succ hlength, hfails⟩
    · rw [copyFrom, if_neg hi]
      exact ⟨[], nofun, rfl, .inl ⟨rfl, by simp; omega⟩⟩

/-- What has been written in front of the rest of a buffer is a prefix of it. -/
theorem writesPrefix_of_append {told : Nat → Except Error Value} {count : Nat} {buffer vs : List Value}
    {outcome : Except Error Nat} (htold : ∀ k v, vs[k]? = some v → told k = .ok v) (hlength : vs.length ≤ buffer.length)
    (hend : (outcome = .ok count ∧ vs.length = count) ∨
      ∃ e, outcome = .error e ∧ vs.length < count ∧ told vs.length = .error e) :
    WritesPrefix told count buffer outcome (vs ++ buffer.drop vs.length) := by
  have hbefore : ∀ i < vs.length, ∃ v, told i = .ok v ∧ (vs ++ buffer.drop vs.length)[i]? = some v := by
    intro i hi
    have hv : vs[i]? = some vs[i] := List.getElem?_eq_getElem hi
    exact ⟨vs[i], htold i _ hv, by rw [List.getElem?_append_left hi, hv]⟩
  have hbehind : ∀ i, vs.length ≤ i → (vs ++ buffer.drop vs.length)[i]? = buffer[i]? := by
    intro i hi
    rw [List.getElem?_append_right hi, List.getElem?_drop, Nat.add_sub_cancel' hi]
  refine ⟨?_, fun n hn => ?_, fun e he => ?_⟩
  · rw [List.length_append, List.length_drop]
    omega
  · rcases hend with ⟨hok, rfl⟩ | ⟨e, herror, -⟩
    · exact ⟨Except.ok.inj (hn.symm.trans hok), hbefore, hbehind⟩
    · cases hn.symm.trans herror
  · rcases hend with ⟨hok, -⟩ | ⟨e', herror, hlt, hfails⟩
    · cases he.symm.trans hok
    · obtain rfl : e = e' := Except.error.inj (he.symm.trans herror)
      exact ⟨vs.length, hlt, hfails, hbefore, hbehind⟩

/-- Whatever the executor, a row is copied as the values are told in turn. -/
theorem writesPrefix_values (r : Reader σ) (buffer : List Value) (c : Connection σ) :
    WritesPrefix (r.toldInTurn c) (min buffer.length r.fieldCount) buffer (r.values buffer c).1
      (r.values buffer c).2.1 := by
  obtain ⟨vs, htold, hwritten, hend⟩ := r.exists_told_of_copyFrom (min buffer.length r.fieldCount) 0 buffer c
  simp only [Nat.zero_add, Nat.sub_zero] at htold hend
  have hvalues : r.values buffer c = ((r.copyFrom (min buffer.length r.fieldCount) 0 buffer c).1.map fun _ =>
      min buffer.length r.fieldCount, (r.copyFrom (min buffer.length r.fieldCount) 0 buffer c).2) := rfl
  rw [hvalues, hwritten]
  refine writesPrefix_of_append htold ?_ ?_
  · rcases hend with ⟨-, hlength⟩ | ⟨e, -, hlength, -⟩ <;> omega
  · rcases hend with ⟨hok, hlength⟩ | ⟨e, herror, hlength, hfails⟩
    · rw [hok]
      exact .inl ⟨rfl, by omega⟩
    · rw [herror]
      exact .inr ⟨e, rfl, by omega, hfails⟩

/-- Copying a row only looks at values. -/
theorem looked_values (r : Reader σ) (buffer : List Value) (c : Connection σ) :
    Looked r c (r.values buffer c).2.2 :=
  looked_copyFrom r _ 0 buffer c c .none

/-- On an executor that repeats its readings, a value is told in turn as it is told at once. -/
theorem toldInTurn_eq (h : Executor.RepeatsReadings σ) (r : Reader σ) (c : Connection σ) :
    r.toldInTurn c = fun i => (r.value i c).1 := by
  funext i
  exact fst_value_of_looked h (looked_afterTelling r .none 0 i) i

end Reader

/-- The scripted executor reads a datum the same whenever it is asked. -/
theorem Scripted.repeatsReadings : Executor.RepeatsReadings Scripted := by
  intro datum datum' oid oid' s
  have hsame : (Executor.readDatum datum' oid' s).2 = s := Reader.snd_readDatum datum' oid' s
  rw [hsame]

namespace Reader

/-- For any reader over any executor, copying the row over a buffer writes a prefix of it, up to the first value that
cannot be told, does nothing to the connection but tell values, and leaves the reader as it is. On an executor that
repeats its readings the values are those of the columns by themselves, and they are told as before afterwards. The
scripted executor is one, and there the connection stays the same; the native executor is one over any layer that
repeats its texts. -/
theorem row_copied_as_prefix :
    (∀ {σ : Type} [Executor σ] (r : Reader σ) (buffer : List Value) (c : Connection σ),
      WritesPrefix (r.toldInTurn c) (min buffer.length r.fieldCount) buffer (r.values buffer c).1
        (r.values buffer c).2.1 ∧
      Looked r c (r.values buffer c).2.2 ∧ ∀ n, (r.answer c (.values n)).2.1 = r) ∧
    (∀ {σ : Type} [Executor σ], Executor.RepeatsReadings σ →
      ∀ (r : Reader σ) (buffer : List Value) (c : Connection σ),
        WritesPrefix (fun i => (r.value i c).1) (min buffer.length r.fieldCount) buffer (r.values buffer c).1
          (r.values buffer c).2.1 ∧
        ∀ c', Looked r (r.values buffer c).2.2 c' → ∀ i, (r.value i c').1 = (r.value i c).1) ∧
    (Executor.RepeatsReadings Scripted ∧
      ∀ (r : Reader Scripted) (buffer : List Value) (c : Connection Scripted), (r.values buffer c).2.2 = c) ∧
    ∀ {σ : Type} [NativeLayer σ], Native.RepeatsTexts σ → Executor.RepeatsReadings (Native σ) := by
  refine ⟨?_, ?_, ⟨Scripted.repeatsReadings, ?_⟩, Native.repeatsReadings⟩
  · intro σ _ r buffer c
    refine ⟨r.writesPrefix_values buffer c, r.looked_values buffer c, fun n => ?_⟩
    simp only [answer]
    split <;> rfl
  · intro σ _ h r buffer c
    have hwritten := r.writesPrefix_values buffer c
    rw [toldInTurn_eq h] at hwritten
    refine ⟨hwritten, fun c' hlooked i => ?_⟩
    rw [fst_value_of_looked h hlooked, fst_value_of_looked h (r.looked_values buffer c)]
  · intro r buffer c
    exact Scripted.eq_of_looked (r.looked_values buffer c)

/-- A native layer over one row of a text, of a byte string whose text is cut off, and of a text. -/
structure CutRow where
  fetched : Bool := false

instance : NativeLayer CutRow where
  Plan := Unit
  Portal := Unit
  ready s := (true, s)
  prepare _ _ s := ((0, some ()), s)
  execute _ _ _ s := (0, s)
  executePlan _ _ _ _ _ s := (0, s)
  openCursor _ _ _ s := ((0, some ()), s)
  fetch _ _ := ⟨true⟩
  dimensions s := ((if s.fetched then 1 else 0, 3), s)
  columns s := ([⟨25, some [97]⟩, ⟨17, some [98]⟩, ⟨25, some [99]⟩], s)
  table s := ([⟨1, false⟩, ⟨2, false⟩, ⟨1, false⟩], s)
  finish _ := ⟨false⟩
  textOfWord w _ s := (if w = 1 then some [104, 105, 0] else some [92, 120, 48, 0], s)
  wordOfText _ _ s := (0, s)

/-- The byte string stops the copying: the text before it is written, and the text behind it is not. -/
theorem row_copied_as_prefix_cut :
    ∃ (cmd' : Command) (c₁ c₂ : Connection (Native CutRow)) (r r' : Reader (Native CutRow))
      (replies : List ReaderReply) (e : Error) (written : List Value),
      Command.executeReader { text := "select a, b, c" } { executor := ⟨{}⟩ } = (.ok r, cmd', c₁) ∧
      r.answerAll c₁ [.read] = (replies, r', c₂) ∧ (r'.value 1 c₂).1 = .error e ∧
      (r'.value 2 c₂).1 = .ok (.text "hi") ∧
      (r'.values [.int4 1, .int4 2, .int4 3, .int4 4] c₂).1 = .error e ∧
      (r'.values [.int4 1, .int4 2, .int4 3, .int4 4] c₂).2.1 = written ∧
      written[0]? = some (.text "hi") ∧ (∀ i, 1 ≤ i → written[i]? = [Value.int4 1, .int4 2, .int4 3, .int4 4][i]?) ∧
      (r'.value 2 (r'.values [.int4 1, .int4 2, .int4 3, .int4 4] c₂).2.2).1 = .ok (.text "hi") := by
  have hrun : ∃ (cmd' : Command) (c₁ c₂ : Connection (Native CutRow)) (r r' : Reader (Native CutRow))
      (replies : List ReaderReply) (e : Error),
      Command.executeReader { text := "select a, b, c" } { executor := ⟨{}⟩ } = (.ok r, cmd', c₁) ∧
      r.answerAll c₁ [.read] = (replies, r', c₂) ∧ r'.fieldCount = 3 ∧ (r'.value 0 c₂).1 = .ok (.text "hi") ∧
      (r'.value 1 c₂).1 = .error e ∧ (r'.value 2 c₂).1 = .ok (.text "hi") :=
    ⟨_, _, _, _, _, _, _, rfl, rfl, rfl, rfl, rfl, rfl⟩
  obtain ⟨cmd', c₁, c₂, r, r', replies, e, hreader, hasked, hcount, hfirst, hcut, hlast⟩ := hrun
  obtain ⟨-, hrepeating, -, hnative⟩ := row_copied_as_prefix
  have hrepeats : Executor.RepeatsReadings (Native CutRow) := hnative fun _ _ _ _ _ => rfl
  obtain ⟨hwritten, hlater⟩ := hrepeating hrepeats r' [.int4 1, .int4 2, .int4 3, .int4 4] c₂
  have hsame := hlater _ .none 2
  rw [hlast] at hsame
  rw [hcount] at hwritten
  cases houtcome : (r'.values [.int4 1, .int4 2, .int4 3, .int4 4] c₂).1 with
  | ok n =>
    obtain ⟨-, htold, -⟩ := hwritten.ok n houtcome
    obtain ⟨v, hv, -⟩ := htold 1 (by decide)
    cases hcut.symm.trans hv
  | error e' =>
    obtain ⟨j, -, hj, hbefore, hbehind⟩ := hwritten.error e' houtcome
    match j with
    | 0 => cases hfirst.symm.trans hj
    | 1 =>
      obtain rfl : e = e' := Except.error.inj (hcut.symm.trans hj)
      obtain ⟨v, hv, hv₀⟩ := hbefore 0 Nat.one_pos
      obtain rfl : Value.text "hi" = v := Except.ok.inj (hfirst.symm.trans hv)
      exact ⟨cmd', c₁, c₂, r, r', replies, e, _, hreader, hasked, hcut, hlast, houtcome, rfl, hv₀, hbehind, hsame⟩
    | j + 2 =>
      obtain ⟨v, hv, -⟩ := hbefore 1 (by omega)
      cases hcut.symm.trans hv

end Reader

end InProcessSql
