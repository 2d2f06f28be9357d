import InProcessSql.Proofs.ArrayConversion
import InProcessSql.Proofs.Executor.NativeValues
import InProcessSql.Proofs.RowPlaces

/-!
# Reading one value as different types

Whether a value is null is decided by the null flag of its place, and again by each target, inside of options and
lists. `Reader.ReadsAs` says how the answers for all targets go together, and `Reader.readsAs_of_value` that they do
for every reader and every value. The null flag agrees with the value, and reading leaves the value to be read again:
on the scripted executor for all readers that it delivers, and on the native executor over any layer whose texts stay
the same.
-/

namespace InProcessSql

/-! ## Null -/

namespace Target

/-- Options and values represent null, and no other target does. -/
theorem null?_eq_none {t : Target} (hvalue : t ≠ .value) (hoption : ∀ inner, t ≠ .option inner) : t.null? = none := by
  cases t with
  | value => exact absurd rfl hvalue
  | option inner => exact absurd rfl (hoption inner)
  | _ => rfl

theorem read_null_of_null? {t : Target} (h : t.null? = none) : t.read .null = .error .null := by
  rw [read, h]

/-- What is not null is read as it is converted. -/
theorem read_of_ne {v : Value} (hv : v ≠ .null) (t : Target) : t.read v = t.convert v := by
  cases v with
  | null => exact absurd rfl hv
  | _ => rfl

/-- As an option, a value that is not null is read as the target inside. -/
theorem read_option_of_ne {v : Value} (hv : v ≠ .null) (t : Target) : read (.option t) v = (t.read v).map some := by
  rw [read_of_ne hv, read_of_ne hv, convert_option_of_ne hv]

end Target

/-! ## Any executor -/

namespace Reader

section AnyExecutor

variable {σ : Type} [Executor σ] {r : Reader σ} {i : Nat} {v : Value} {c c' : Connection σ}

/-- A value that is told is null by the flag of its place, or is what the executor makes of its datum. -/
theorem exists_place_of_value (h : r.value i c = (.ok v, c')) :
    ∃ column place, r.column i = .ok column ∧ r.place i = .ok place ∧
      ((place.isNull = true ∧ v = .null ∧ c' = c) ∨
        (place.isNull = false ∧ Connection.readDatum place.datum column.oid c = (.ok v, c'))) := by
  unfold value at h
  cases hcolumn : r.column i with
  | error e =>
    rw [hcolumn] at h
    cases h
  | ok column =>
    cases hplace : r.place i with
    | error e =>
      rw [hcolumn, hplace] at h
      cases h
    | ok place =>
      simp only [hcolumn, hplace] at h
      refine ⟨column, place, rfl, rfl, ?_⟩
      cases hnull : place.isNull with
      | true =>
        rw [hnull] at h
        cases h
        exact .inl ⟨rfl, rfl, rfl⟩
      | false =>
        rw [hnull] at h
        exact .inr ⟨rfl, h⟩

/-- A value is read as a target by converting it, and a failing cast names the column. -/
theorem get_of_value {name : String} (hname : r.columnName i = .ok name) (h : r.value i c = (.ok v, c')) (t : Target) :
    r.get t i c = ((t.read v).mapError (.invalidCast name t), c') := by
  rw [get, Step.bind_of_ok h, label, hname]
  cases t.read v <;> rfl

/-- How the answers for all targets go together, if the value in the column of that name is told. -/
structure ReadsAs (r : Reader σ) (i : Nat) (name : String) (v : Value) (c c' : Connection σ) : Prop where
  columnName : r.columnName i = .ok name
  /-- The reader stays as it is, and the connection is left as by telling the value. -/
  unchanged : ∀ t : Target, ∃ reply, r.answer c (.get t i) = (reply, r, c')
  null : v = .null →
    (∀ t : Target, r.get (.option t) i c = (.ok none, c')) ∧ r.get .value i c = (.ok Value.null, c') ∧
    ∀ t : Target, t ≠ .value → (∀ inner, t ≠ .option inner) →
      r.get t i c = (.error (.invalidCast name t .null), c')
  notNull : v ≠ .null → ∀ t : Target,
    (∃ a, r.get t i c = (.ok a, c') ∧ r.get (.option t) i c = (.ok (some a), c')) ∨
    ∃ cause, r.get t i c = (.error (.invalidCast name t cause), c') ∧
      r.get (.option t) i c = (.error (.invalidCast name (.option t) cause), c')

/-- Whatever the value, and over any executor, the answers for all targets go together. -/
theorem readsAs_of_value (h : r.value i c = (.ok v, c')) : ∃ name, ReadsAs r i name v c c' := by
  obtain ⟨column, place, hcolumn, -⟩ := exists_place_of_value h
  have hname : r.columnName i = .ok column.name := by
    rw [columnName, hcolumn]
    rfl
  have hget := get_of_value hname h
  refine ⟨column.name, hname, fun t => ?_, ?_, fun hv t => ?_⟩
  · refine ⟨.ofExcept (.converted t) ((t.read v).mapError (.invalidCast column.name t)), ?_⟩
    rw [answer, tell, hget]
  · rintro rfl
    refine ⟨fun t => hget (.option t), hget .value, fun t hvalue hoption => ?_⟩
    rw [hget, Target.read_null_of_null? (Target.null?_eq_none hvalue hoption)]
    rfl
  · rw [hget, hget, Target.read_option_of_ne hv]
    cases t.read v with
    | ok a => exact .inl ⟨a, rfl, rfl⟩
    | error cause => exact .inr ⟨cause, rfl, rfl⟩

/-! ## Places that tell null -/

/-- A place whose flag does not say null holds no null. -/
def Truthful (s : σ) (p : Executor.Place σ) : Prop :=
  p.isNull = false → ∀ oid v, (Executor.readDatum p.datum oid s).1.result oid = .ok v → v ≠ .null

/-- The flags of truthful places agree with the values. -/
theorem isNull_of_value (hrow : ∀ row, r.row? = some row → ∀ p ∈ row, Truthful c.executor p)
    (h : r.value i c = (.ok v, c')) : r.isNull i = .ok v.isNull := by
  obtain ⟨column, p, hcolumn, hplace, hvalue⟩ := exists_place_of_value h
  have hflag : r.isNull i = .ok p.isNull := by
    rw [isNull, hcolumn, hplace]
    rfl
  rw [hflag]
  rcases hvalue with ⟨hnull, rfl, -⟩ | ⟨hnull, hread⟩
  · rw [hnull]
    rfl
  · obtain ⟨row, hrow', hp⟩ := exists_row_of_place hplace
    have hresult := Connection.fst_readDatum p.datum column.oid c
    rw [hread] at hresult
    have hne := hrow row hrow' p hp hnull column.oid v hresult.symm
    rw [hnull, Bool.eq_false_iff.2 (mt Value.isNull_iff.1 hne)]

end AnyExecutor

end Reader

/-! ## The scripted executor -/

namespace Scripted

open Reader

/-- A datum is read as the value that it stands for, and as no other. -/
theorem result_readDatum_eq_ok_iff {datum : Nat} {oid : Oid} {s : Scripted} {v : Value} :
    (readDatum datum oid s).1.result oid = .ok v ↔ s.valueOf? datum = some v := by
  rw [readDatum]
  cases s.valueOf? datum with
  | none => simp [DatumReading.result]
  | some u => simp [DatumReading.result]

/-- A place that holds no null holds none later. -/
theorem GainsValues.truthful {s t : Scripted} (h : GainsValues s t) {p : Place} (hp : Truthful s p) : Truthful t p := by
  intro hnull oid v hv
  have hold : ∀ u, s.valueOf? p.datum = some u → u ≠ .null :=
    fun u hu => hp hnull oid u (result_readDatum_eq_ok_iff.2 hu)
  have hv := result_readDatum_eq_ok_iff.1 hv
  obtain ⟨more, hmore, hne⟩ := h
  rw [valueOf?] at hold hv
  by_cases hzero : p.datum = 0
  · rw [if_pos hzero] at hv
    cases hv
  · rw [if_neg hzero] at hold hv
    rw [hmore] at hv
    by_cases hlt : p.datum - 1 < s.datums.length
    · rw [List.getElem?_append_left hlt] at hv
      exact hold v hv
    · rw [List.getElem?_append_right (by omega)] at hv
      exact hne v (List.mem_of_getElem? hv)

/-- The place of a stored value tells truly whether it is null. -/
theorem truthful_storePlace (v : Value) (s : Scripted) : Truthful (storePlace v s).2 (storePlace v s).1 := by
  intro hnull oid u hu
  have hstands := stands_storePlace v s
  have hv : v.isNull = false := hstands.isNull_eq.symm.trans hnull
  have hu := result_readDatum_eq_ok_iff.1 hu
  rw [hstands.valueOf?_eq hv] at hu
  cases hu
  exact mt Value.isNull_iff.2 (Bool.eq_false_iff.1 hv)

/-- A blank place has no value at all. -/
theorem truthful_blankPlace (s : Scripted) : Truthful s Executor.blankPlace := by
  intro _ oid v hv
  cases result_readDatum_eq_ok_iff.1 hv

/-- The places of rows are truthful. -/
theorem ofPlaces_truthful : OfPlaces Truthful :=
  ⟨truthful_blankPlace, truthful_storePlace, fun h hp => h.truthful hp⟩

end Scripted

/-! ## The native executor -/

theorem ne_null_of_map {α ε : Type} {x : Except ε α} {f : α → Value} {v : Value} (h : x.map f = .ok v)
    (hf : ∀ a, f a ≠ .null) : v ≠ .null := by
  obtain ⟨a, -, rfl⟩ := map_eq_ok_iff.1 h
  exact hf a

/-- No text is the text of null. -/
theorem TextFormat.ne_null_of_readScalar {type : ScalarType} {text : String} {v : Value}
    (h : readScalar type text = .ok v) : v ≠ .null := by
  cases type with
  | boolean =>
    simp only [readScalar] at h
    split at h <;> cases h
    intro hnull
    cases hnull
  | smallint | integer | bigint | oid | xid | cid | real | double | bytea | date | time | timestamp | timestamptz =>
    exact ne_null_of_map h fun _ hnull => by cases hnull
  | _ =>
    cases h
    intro hnull
    cases hnull

/-- No text is decoded as null. -/
theorem TextFormat.ne_null_of_decode {oid : Oid} {text : String} {v : Value} (h : decode oid text = .ok v) :
    v ≠ .null := by
  have h : read oid text = .ok v := mapError_eq_ok_iff.1 h
  unfold read readArray at h
  split at h
  · exact ne_null_of_readScalar h
  · split at h
    · split at h
      · cases h
      · cases h
        intro hnull
        cases hnull
      · exact ne_null_of_map h fun _ hnull => by cases hnull
    · cases h
      intro hnull
      cases hnull

theorem ByValue.ne_null_of_orOutOfRange {α : Type} {oid : Oid} {x : Option α} {f : α → Value} {v : Value}
    (h : orOutOfRange oid (x.map f) = .ok v) (hf : ∀ a, f a ≠ .null) : v ≠ .null := by
  cases x with
  | none => cases h
  | some a =>
    cases h
    exact hf a

/-- No word is null by itself. -/
theorem ByValue.ne_null_of_decode? {w : Word} {oid : Oid} {v : Value} (h : decode? w oid = some (.ok v)) :
    v ≠ .null := by
  obtain ⟨type, -, hdecode⟩ := Option.bind_eq_some_iff.1 h
  cases type with
  | date | time | timestamp | timestamptz => exact ne_null_of_orOutOfRange (Option.some.inj hdecode) fun _ => nofun
  | _ => cases hdecode <;> exact nofun

namespace Native

variable {σ : Type} [NativeLayer σ]

/-- The native executor tells null by null flags only. -/
theorem truthful (s : Native σ) (p : Executor.Place (Native σ)) : Reader.Truthful s p := by
  intro _ oid v hv
  have hv : (readDatum p.datum oid s.layer).1.result oid = .ok v := hv
  rw [readDatum] at hv
  split at hv
  · rename_i value hdecode
    have hvalue : value = .ok v := hv
    rw [hvalue] at hdecode
    exact ByValue.ne_null_of_decode? hdecode
  · split at hv
    · exact TextFormat.ne_null_of_decode hv
    · cases hv

/-- The text of a word stays the same when texts of words are asked for. -/
def RepeatsTexts (σ : Type) [NativeLayer σ] : Prop :=
  ∀ (w w' : Word) (oid oid' : Oid) (s : σ),
    (NativeLayer.textOfWord w oid (NativeLayer.textOfWord w' oid' s).2).1 = (NativeLayer.textOfWord w oid s).1

variable {r : Reader (Native σ)} {c c' : Connection (Native σ)}

/-- A layer that repeats texts reads a word the same after it has read another. -/
theorem readDatum_of_repeatsTexts (h : RepeatsTexts σ) (w w' : Word) (oid oid' : Oid) (s : σ) :
    (readDatum w oid (readDatum w' oid' s).2).1 = (readDatum w oid s).1 := by
  -- Reading a word changes the layer only where the word is read by its text.
  have hstate : (readDatum w' oid' s).2 = s ∨ (readDatum w' oid' s).2 = (NativeLayer.textOfWord w' oid' s).2 := by
    rw [readDatum]
    split
    · exact .inl rfl
    · rcases NativeLayer.textOfWord w' oid' s with ⟨_ | bytes, t⟩ <;> exact .inr rfl
  rcases hstate with hstate | hstate
  · rw [hstate]
  · rw [hstate, readDatum, readDatum]
    cases ByValue.decode? w oid with
    | some value => rfl
    | none =>
      have htext := h w w' oid oid' s
      generalize NativeLayer.textOfWord w oid (NativeLayer.textOfWord w' oid' s).2 = again at htext ⊢
      generalize NativeLayer.textOfWord w oid s = first at htext ⊢
      obtain ⟨text, t⟩ := again
      obtain ⟨text', u⟩ := first
      obtain rfl : text = text' := htext
      cases text <;> rfl

/-- Over such a layer the native executor repeats its readings. -/
theorem repeatsReadings (h : RepeatsTexts σ) : Executor.RepeatsReadings (Native σ) :=
  fun w w' oid oid' s => readDatum_of_repeatsTexts h w w' oid oid' s.layer

/-- Over such a layer, telling values leaves all values as they are. -/
theorem fst_value_of_looked (h : RepeatsTexts σ) (hlooked : Reader.Looked r c c') (i : Nat) :
    (r.value i c').1 = (r.value i c).1 :=
  Reader.fst_value_of_looked (repeatsReadings h) hlooked i

end Native

/-! ## All targets -/

namespace Reader

/-- If a value is told, the answers for all targets go together, for any reader over any executor. On the scripted
executor, for each reader that it delivers and whatever that has been asked for, the null flag agrees with the value,
and the value is told again after any reading, on the same connection. So it is on the native executor over any layer
that repeats its texts, but that the layer is asked for the text again. -/
theorem typed_reads_agree :
    (∀ {σ : Type} [Executor σ] {r : Reader σ} {i : Nat} {v : Value} {c c' : Connection σ},
      r.value i c = (.ok v, c') → ∃ name, ReadsAs r i name v c c') ∧
    (∀ {cmd cmd' : Command} {c c₁ c₂ c₃ : Connection Scripted} {r r' : Reader Scripted}
      {requests : List ReaderRequest} {replies : List ReaderReply} {i : Nat} {v : Value},
      cmd.executeReader c = (.ok r, cmd', c₁) → r.answerAll c₁ requests = (replies, r', c₂) →
      r'.value i c₂ = (.ok v, c₃) →
      r'.isNull i = .ok v.isNull ∧ ∀ t c₄, Looked r' (r'.get t i c₂).2 c₄ → r'.value i c₄ = (.ok v, c₂)) ∧
    (∀ {σ : Type} [NativeLayer σ] {r : Reader (Native σ)} {i : Nat} {v : Value} {c c' : Connection (Native σ)},
      Native.RepeatsTexts σ → r.value i c = (.ok v, c') →
      r.isNull i = .ok v.isNull ∧ ∀ t c'', Looked r (r.get t i c).2 c'' → (r.value i c'').1 = .ok v) := by
  refine ⟨readsAs_of_value, ?_, ?_⟩
  · intro cmd cmd' c c₁ c₂ c₃ r r' requests replies i v hreader hasked hvalue
    have htruthful : Scripted.RowHas Truthful r c₁.executor := Scripted.rowHas_of_executeReader hreader
    have htruthful := htruthful.answerAll Scripted.ofPlaces_truthful requests
    rw [hasked] at htruthful
    refine ⟨isNull_of_value htruthful hvalue, fun t c₄ hlooked => ?_⟩
    rw [Scripted.eq_of_looked hlooked, Scripted.eq_of_looked (looked_get r' t i c₂), hvalue]
    obtain rfl : c₃ = c₂ := by
      have hsame := Scripted.eq_of_looked (Looked.value .none i : Looked r' c₂ (r'.value i c₂).2)
      rwa [hvalue] at hsame
    rfl
  · intro σ _ r i v c c' hrepeats hvalue
    refine ⟨isNull_of_value (fun row _ p _ => Native.truthful c.executor p) hvalue, fun t c'' hlooked => ?_⟩
    rw [Native.fst_value_of_looked hrepeats hlooked, Native.fst_value_of_looked hrepeats (looked_get r t i c), hvalue]

/-- A connection over which the next query has a row of a null and of a number that is no `Int16`. -/
def connectionToWideRow : Connection Scripted :=
  { executor := { results := [⟨⟨[⟨"a", 23⟩, ⟨"b", 23⟩]⟩, [[.null, .int4 70000]]⟩] } }

/-- A native layer over one row of a text and a null. -/
structure TextRow where
  fetched : Bool := false

instance : NativeLayer TextRow where
  Plan := Unit
  Portal := Unit
  ready s := (true, s)
  prepare _ _ s := ((0, some ()), s)
  execute _ _ _ s := (0, s)
  executePlan _ _ _ _ _ s := (0, s)
  openCursor _ _ _ s := ((0, some ()), s)
  fetch _ _ := ⟨true⟩
  dimensions s := ((if s.fetched then 1 else 0, 2), s)
  columns s := ([⟨25, some [115]⟩, ⟨25, none⟩], s)
  table s := ([⟨1, false⟩, ⟨0, true⟩], s)
  finish _ := ⟨false⟩
  textOfWord w _ s := (if w = 1 then some [104, 105, 0] else none, s)
  wordOfText _ _ s := (0, s)

/-- A null and a number that is too large on the scripted executor, and a text and a null on a native one. -/
theorem typed_reads_agree_wide :
    (∃ (cmd' : Command) (c₁ c₂ : Connection Scripted) (r r' : Reader Scripted) (replies : List ReaderReply),
      Command.executeReader { text := "select a, b" } connectionToWideRow = (.ok r, cmd', c₁) ∧
      r.answerAll c₁ [.read] = (replies, r', c₂) ∧
      r'.isNull 0 = .ok true ∧ r'.get (.option (.list .int16)) 0 c₂ = (.ok none, c₂) ∧
      r'.get .value 0 c₂ = (.ok Value.null, c₂) ∧
      r'.get (.list .int16) 0 c₂ = (.error (.invalidCast "a" (.list .int16) .null), c₂) ∧
      r'.isNull 1 = .ok false ∧
      r'.get (.option .int16) 1 c₂ = (.error (.invalidCast "b" (.option .int16) (.outOfRange 70000)), c₂) ∧
      r'.value 1 (r'.get (.option .int16) 1 c₂).2 = (.ok (.int4 70000), c₂)) ∧
    ∃ (cmd' : Command) (c₁ c₂ c₃ : Connection (Native TextRow)) (r r' : Reader (Native TextRow))
      (replies : List ReaderReply),
      Command.executeReader { text := "select s" } { executor := ⟨{}⟩ } = (.ok r, cmd', c₁) ∧
      r.answerAll c₁ [.read] = (replies, r', c₂) ∧ r'.value 0 c₂ = (.ok (.text "hi"), c₃) ∧
      r'.isNull 0 = .ok false ∧
      r'.get (.option (.option .string)) 0 c₂ = (.ok (some (some "hi")), c₃) ∧
      (r'.value 0 (r'.get .bool 0 c₂).2).1 = .ok (.text "hi") := by
  obtain ⟨hall, hscripted, hnative⟩ := typed_reads_agree
  constructor
  · have hrun : ∃ (cmd' : Command) (c₁ c₂ : Connection Scripted) (r r' : Reader Scripted) (replies : List ReaderReply),
        Command.executeReader { text := "select a, b" } connectionToWideRow = (.ok r, cmd', c₁) ∧
        r.answerAll c₁ [.read] = (replies, r', c₂) ∧ r'.value 0 c₂ = (.ok .null, c₂) ∧
        r'.value 1 c₂ = (.ok (.int4 70000), c₂) ∧ r'.columnName 0 = .ok "a" ∧ r'.columnName 1 = .ok "b" ∧
        r'.get .int16 1 c₂ = (.error (.invalidCast "b" .int16 (.outOfRange 70000)), c₂) :=
      ⟨_, _, _, _, _, _, rfl, rfl, rfl, rfl, rfl, rfl, rfl⟩
    obtain ⟨cmd', c₁, c₂, r, r', replies, hreader, hasked, hnull, hwide, hname₀, hname₁, hcast⟩ := hrun
    obtain ⟨hflag₀, -⟩ := hscripted hreader hasked hnull
    obtain ⟨hflag₁, hagain⟩ := hscripted hreader hasked hwide
    obtain ⟨name₀, has₀⟩ := hall hnull
    obtain rfl : "a" = name₀ := Except.ok.inj (hname₀.symm.trans has₀.columnName)
    obtain ⟨hoption, hvalue, hother⟩ := has₀.null rfl
    obtain ⟨name₁, has₁⟩ := hall hwide
    obtain rfl : "b" = name₁ := Except.ok.inj (hname₁.symm.trans has₁.columnName)
    refine ⟨cmd', c₁, c₂, r, r', replies, hreader, hasked, hflag₀, hoption _, hvalue, hother _ nofun nofun, hflag₁, ?_,
      hagain _ _ .none⟩
    rcases has₁.notNull nofun .int16 with ⟨a, ha, -⟩ | ⟨cause, hcause, hcasts⟩
    · cases hcast.symm.trans ha
    · cases hcast.symm.trans hcause
      exact hcasts
  · have hrun : ∃ (cmd' : Command) (c₁ c₂ c₃ : Connection (Native TextRow)) (r r' : Reader (Native TextRow))
        (replies : List ReaderReply),
        Command.executeReader { text := "select s" } { executor := ⟨{}⟩ } = (.ok r, cmd', c₁) ∧
        r.answerAll c₁ [.read] = (replies, r', c₂) ∧ r'.value 0 c₂ = (.ok (.text "hi"), c₃) ∧
        r'.get (.option .string) 0 c₂ = (.ok (some "hi"), c₃) :=
      ⟨_, _, _, _, _, _, _, rfl, rfl, rfl, rfl⟩
    obtain ⟨cmd', c₁, c₂, c₃, r, r', replies, hreader, hasked, htext, hstring⟩ := hrun
    have hrepeats : Native.RepeatsTexts TextRow := fun _ _ _ _ _ => rfl
    obtain ⟨hflag, hagain⟩ := hnative hrepeats htext
    obtain ⟨name, has⟩ := hall htext
    refine ⟨cmd', c₁, c₂, c₃, r, r', replies, hreader, hasked, htext, hflag, ?_, hagain _ _ .none⟩
    rcases has.notNull nofun (.option .string) with ⟨a, ha, hsome⟩ | ⟨cause, hcause, -⟩
    · cases hstring.symm.trans ha
      exact hsome
    · cases hstring.symm.trans hcause

end Reader

end InProcessSql
