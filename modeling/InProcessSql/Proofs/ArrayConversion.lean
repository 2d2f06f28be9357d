import Mathlib
import InProcessSql.Proofs.FallibleMap
import InProcessSql.Value.Conversion

/-!
# Conversion of arrays

A list target converts an array element by element. `Target.ConvertsElement` says what becomes of an element, and
`Target.convert_elementwise` that an array is converted if all of its elements are, that otherwise the first element
that is not decides, and that integers come through any nesting of options and lists as they were stored.
-/

namespace InProcessSql

open InProcessSql.Number

namespace Target

variable {t : Target} {v : Value}

/-! ## Elements -/

/-- What becomes of an element of an array: null becomes the null of the target, if it has one, and any other element
is converted as a value. -/
inductive ConvertsElement (t : Target) : Value → Except ValueError t.Carrier → Prop
  | null {a : t.Carrier} (hnull : t.null? = some a) : ConvertsElement t .null (.ok a)
  | noNull (hnull : t.null? = none) : ConvertsElement t .null (.error .nullElement)
  | value {v : Value} (hv : v ≠ .null) : ConvertsElement t v (t.convert v)

/-- An element that is not null is converted as a value is. -/
theorem convertElement_of_ne {α : Type} (null? : Option α) (convert : Value → Except ValueError α) (hv : v ≠ .null) :
    convertElement null? convert v = convert v := by
  cases v with
  | null => exact absurd rfl hv
  | _ => rfl

/-- Converting an element has exactly the outcome that `ConvertsElement` says. -/
theorem convertElement_eq_iff {result : Except ValueError t.Carrier} :
    convertElement t.null? t.convert v = result ↔ t.ConvertsElement v result := by
  constructor
  · rintro rfl
    by_cases hv : v = .null
    · subst hv
      cases hnull : t.null? with
      | none => exact .noNull hnull
      | some a => exact .null hnull
    · rw [convertElement_of_ne _ _ hv]
      exact .value hv
  · intro h
    cases h with
    | null hnull => simp only [convertElement, hnull]
    | noNull hnull => simp only [convertElement, hnull]
    | value hv => exact convertElement_of_ne _ _ hv

/-! ## Arrays -/

/-- Only arrays are converted to lists. -/
theorem convert_list_of_ne (hv : ∀ items, v ≠ .array items) : convert (.list t) v = .error (.unexpected v) := by
  cases v with
  | array items => exact absurd rfl (hv items)
  | _ => rfl

theorem convert_list_array (t : Target) (items : List Value) :
    convert (.list t) (.array items) = items.mapM (convertElement t.null? t.convert) := rfl

/-- An array is converted to the list of what its elements become. -/
theorem convert_list_eq_ok_iff {items : List Value} {as : List t.Carrier} :
    convert (.list t) (.array items) = .ok as ↔
      List.Forall₂ (fun item a => t.ConvertsElement item (.ok a)) items as := by
  rw [convert_list_array, mapM_eq_ok_iff]
  simp only [convertElement_eq_iff]

/-- An array is not converted if an element is not, and the first such element says why. -/
theorem convert_list_eq_error_iff {items : List Value} {e : ValueError} :
    convert (.list t) (.array items) = .error e ↔ ∃ before item after, items = before ++ item :: after ∧
      (∀ x ∈ before, ∃ a, t.ConvertsElement x (.ok a)) ∧ t.ConvertsElement item (.error e) := by
  rw [convert_list_array, mapM_eq_error_iff]
  simp only [convertElement_eq_iff]

/-! ## Integers -/

/-- The range of an integer target. -/
def intRange? : Target → Option Range
  | int16 => some (.signed 16)
  | int32 => some (.signed 32)
  | int64 => some (.signed 64)
  | _ => none

/-- The range of the integers that a target is made of, through options and lists. -/
def leafRange? : Target → Option Range
  | option inner => inner.leafRange?
  | list element => element.leafRange?
  | t => t.intRange?

/-- The integers in what a target stands for, in order. -/
def integers : (t : Target) → t.Carrier → List Int
  | int16, n => [n.toInt]
  | int32, n => [n.toInt]
  | int64, n => [n.toInt]
  | option inner, a => a.toList.flatMap (integers inner)
  | list element, as => as.flatMap (integers element)
  | _, _ => []

/-- The integers that are stored in a value where a target has its integers, in order. -/
def storedIntegers : Target → Value → List Int
  | option inner, v => inner.storedIntegers v
  | list element, .array items => items.flatMap element.storedIntegers
  | list _, _ => []
  | _, v => v.integer?.toList

/-- The integer lies in the range. -/
def Fits (range : Range) (n : Int) : Prop := range.lo ≤ n ∧ n ≤ range.hi

/-- An integer target takes the integer of a value as it is, refuses one that does not fit, and refuses all other
values. -/
structure TakesIntegers (t : Target) (range : Range) : Prop where
  fitting : ∀ v n, v.integer? = some n → Fits range n → ∃ a, t.convert v = .ok a ∧ t.integers a = [n]
  beyond : ∀ v n, v.integer? = some n → ¬ Fits range n → t.convert v = .error (.outOfRange n)
  other : ∀ v, v.integer? = none → t.convert v = .error (.unexpected v)

/-- A target takes integers of a range, if it reads them and tells them back. -/
theorem TakesIntegers.of_integers_ofInt {range : Range} {ofInt : Int → t.Carrier}
    (hconvert : ∀ v, t.convert v = (v.toInteger range).map ofInt)
    (hback : ∀ n, Fits range n → t.integers (ofInt n) = [n]) : t.TakesIntegers range where
  fitting v n hn hfits := by
    have hfits' : range.lo ≤ n ∧ n ≤ range.hi := hfits
    refine ⟨ofInt n, ?_, hback n hfits⟩
    rw [hconvert, Value.toInteger, hn]
    simp only [if_pos hfits', Except.map]
  beyond v n hn hbeyond := by
    have hbeyond : ¬ (range.lo ≤ n ∧ n ≤ range.hi) := hbeyond
    rw [hconvert, Value.toInteger, hn]
    simp only [if_neg hbeyond, Except.map]
  other v hnone := by
    rw [hconvert, Value.toInteger, hnone]
    rfl

/-- The targets with a range take the integers of that range. -/
theorem takesIntegers {range : Range} (h : t.intRange? = some range) : t.TakesIntegers range := by
  cases t with
  | int16 =>
    cases h
    refine .of_integers_ofInt (fun _ => rfl) fun n hfits => congrArg (fun m => [m]) ?_
    have hfits : -2 ^ 15 ≤ n ∧ n ≤ 2 ^ 15 - 1 := hfits
    exact Int16.toInt_ofInt_of_le (by omega) (by omega)
  | int32 =>
    cases h
    refine .of_integers_ofInt (fun _ => rfl) fun n hfits => congrArg (fun m => [m]) ?_
    have hfits : -2 ^ 31 ≤ n ∧ n ≤ 2 ^ 31 - 1 := hfits
    exact Int32.toInt_ofInt_of_le (by omega) (by omega)
  | int64 =>
    cases h
    refine .of_integers_ofInt (fun _ => rfl) fun n hfits => congrArg (fun m => [m]) ?_
    have hfits : -2 ^ 63 ≤ n ∧ n ≤ 2 ^ 63 - 1 := hfits
    exact Int64.toInt_ofInt_of_le (by omega) (by omega)
  | _ => cases h

/-- An integer target stores the integer of a value. -/
theorem TakesIntegers.of_convert_eq_ok {range : Range} {a : t.Carrier} (ht : t.TakesIntegers range)
    (h : t.convert v = .ok a) : t.integers a = v.integer?.toList ∧ ∀ n ∈ v.integer?.toList, Fits range n := by
  cases hn : v.integer? with
  | none =>
    rw [ht.other v hn] at h
    cases h
  | some n =>
    by_cases hfits : Fits range n
    · obtain ⟨b, hb, hintegers⟩ := ht.fitting v n hn hfits
      obtain rfl : b = a := Except.ok.inj (hb.symm.trans h)
      exact ⟨hintegers, fun m hm => List.mem_singleton.1 hm ▸ hfits⟩
    · rw [ht.beyond v n hn hfits] at h
      cases h

/-- An integer that is out of the range of an integer target is the one of the value. -/
theorem TakesIntegers.of_convert_eq_outOfRange {range : Range} {n : Int} (ht : t.TakesIntegers range)
    (h : t.convert v = .error (.outOfRange n)) : n ∈ v.integer?.toList ∧ ¬ Fits range n := by
  cases hm : v.integer? with
  | none =>
    rw [ht.other v hm] at h
    cases h
  | some m =>
    by_cases hfits : Fits range m
    · obtain ⟨a, ha, -⟩ := ht.fitting v m hm hfits
      cases ha.symm.trans h
    · rw [ht.beyond v m hm hfits] at h
      cases h
      exact ⟨List.mem_singleton_self n, hfits⟩

/-! ## Integers in options and lists -/

theorem storedIntegers_null (t : Target) : t.storedIntegers .null = [] := by
  induction t with
  | option inner ih => exact ih
  | _ => rfl

/-- There are no integers in a null. -/
theorem integers_of_null? {a : t.Carrier} (h : t.null? = some a) : t.integers a = [] := by
  cases t with
  | value => rfl
  | option inner =>
    cases h
    rfl
  | _ => cases h

/-- An optional target converts what is not null as the target does. -/
theorem convert_option_of_ne (hv : v ≠ .null) : convert (.option t) v = (t.convert v).map some := by
  cases v with
  | null => exact absurd rfl hv
  | _ => rfl

/-- What an element becomes has the integers that are stored in the element, if that holds of converted values. -/
theorem ConvertsElement.integers_eq {range : Range} {a : t.Carrier} (h : t.ConvertsElement v (.ok a))
    (hconvert : ∀ {a : t.Carrier}, t.convert v = .ok a →
      t.integers a = t.storedIntegers v ∧ ∀ n ∈ t.storedIntegers v, Fits range n) :
    t.integers a = t.storedIntegers v ∧ ∀ n ∈ t.storedIntegers v, Fits range n := by
  generalize hresult : Except.ok a = result at h
  cases h with
  | null hnull =>
    cases hresult
    rw [storedIntegers_null]
    exact ⟨integers_of_null? hnull, nofun⟩
  | noNull hnull => cases hresult
  | value hv => exact hconvert hresult.symm

/-- What a value is converted to has the integers that are stored in the value, and they all fit. -/
theorem integers_of_convert_eq_ok {range : Range} {a : t.Carrier} (hrange : t.leafRange? = some range)
    (h : t.convert v = .ok a) : t.integers a = t.storedIntegers v ∧ ∀ n ∈ t.storedIntegers v, Fits range n := by
  induction t generalizing v with
  | int16 => exact (takesIntegers hrange).of_convert_eq_ok h
  | int32 => exact (takesIntegers hrange).of_convert_eq_ok h
  | int64 => exact (takesIntegers hrange).of_convert_eq_ok h
  | option inner ih =>
    by_cases hv : v = .null
    · subst hv
      cases h
      rw [storedIntegers_null]
      exact ⟨rfl, nofun⟩
    · rw [convert_option_of_ne hv, map_eq_ok_iff] at h
      obtain ⟨b, hb, rfl⟩ := h
      have hinner := ih hrange hb
      exact ⟨(List.append_nil _).trans hinner.1, hinner.2⟩
  | list element ih =>
    by_cases hv : ∃ items, v = .array items
    · obtain ⟨items, rfl⟩ := hv
      have helements := convert_list_eq_ok_iff.1 h
      -- element by element, with the integers of the lists put together from those of the elements
      induction helements with
      | nil => exact ⟨rfl, nofun⟩
      | cons hitem hrest ihrest =>
        have hhead := hitem.integers_eq (ih hrange)
        have htail := ihrest (convert_list_eq_ok_iff.2 hrest)
        refine ⟨congrArg₂ (· ++ ·) hhead.1 htail.1, fun n hn => ?_⟩
        exact (List.mem_append.1 hn).elim (hhead.2 n) (htail.2 n)
    · rw [convert_list_of_ne fun items hitems => hv ⟨items, hitems⟩] at h
      cases h
  | _ => cases hrange

/-- Only the targets that are made of integers find an integer out of range, and it is stored where they have
theirs. -/
theorem mem_storedIntegers_of_outOfRange {n : Int} (h : t.convert v = .error (.outOfRange n)) :
    ∃ range, t.leafRange? = some range ∧ n ∈ t.storedIntegers v ∧ ¬ Fits range n := by
  induction t generalizing v with
  | int16 => exact ⟨_, rfl, (takesIntegers rfl).of_convert_eq_outOfRange h⟩
  | int32 => exact ⟨_, rfl, (takesIntegers rfl).of_convert_eq_outOfRange h⟩
  | int64 => exact ⟨_, rfl, (takesIntegers rfl).of_convert_eq_outOfRange h⟩
  | option inner ih =>
    by_cases hv : v = .null
    · subst hv
      cases h
    · rw [convert_option_of_ne hv] at h
      cases hinner : inner.convert v with
      | ok a =>
        rw [hinner] at h
        cases h
      | error e =>
        rw [hinner] at h
        cases h
        exact ih hinner
  | list element ih =>
    by_cases hv : ∃ items, v = .array items
    · obtain ⟨items, rfl⟩ := hv
      obtain ⟨before, item, after, rfl, -, hitem⟩ := convert_list_eq_error_iff.1 h
      -- The list fails as one of its items does, and what that item stores is stored in the list.
      generalize hresult : Except.error (ValueError.outOfRange n) = result at hitem
      cases hitem with
      | null hnull => cases hresult
      | noNull hnull => cases hresult
      | value hne =>
        obtain ⟨range, hrange, hmem, hbeyond⟩ := ih hresult.symm
        refine ⟨range, hrange, ?_, hbeyond⟩
        exact List.mem_flatMap.2 ⟨item, List.mem_append_right before List.mem_cons_self, hmem⟩
    · rw [convert_list_of_ne fun items hitems => hv ⟨items, hitems⟩] at h
      cases h
  | float64 =>
    cases v with
    | numeric s =>
      simp only [convert, Value.toBinary64] at h
      split at h <;> cases h
    | _ => cases h
  | _ => cases v <;> cases h

/-! ## Conversion to a list -/

/-- Conversion to a list of any target: what is not an array is refused as it is; an array is converted to the list of
what its elements become, and fails as the first element that becomes nothing. An integer target takes the integers of
its range and no others, and within options and lists the integers that are read are the stored ones, in order. -/
theorem convert_elementwise (t : Target) :
    (∀ v, (∀ items, v ≠ .array items) → convert (.list t) v = .error (.unexpected v)) ∧
    (∀ items as, convert (.list t) (.array items) = .ok as ↔
      List.Forall₂ (fun item a => t.ConvertsElement item (.ok a)) items as) ∧
    (∀ items e, convert (.list t) (.array items) = .error e ↔ ∃ before item after, items = before ++ item :: after ∧
      (∀ x ∈ before, ∃ a, t.ConvertsElement x (.ok a)) ∧ t.ConvertsElement item (.error e)) ∧
    (∀ range, t.intRange? = some range → t.TakesIntegers range) ∧
    (∀ range v as, t.leafRange? = some range → convert (.list t) v = .ok as →
      integers (.list t) as = storedIntegers (.list t) v ∧ ∀ n ∈ storedIntegers (.list t) v, Fits range n) ∧
    (∀ v n, convert (.list t) v = .error (.outOfRange n) →
      ∃ range, t.leafRange? = some range ∧ n ∈ storedIntegers (.list t) v ∧ ¬ Fits range n) := by
  refine ⟨fun v => convert_list_of_ne, fun items as => convert_list_eq_ok_iff, fun items e => convert_list_eq_error_iff,
    fun range => takesIntegers, fun range v as hrange => ?_, fun v n => ?_⟩
  · exact integers_of_convert_eq_ok (t := .list t) hrange
  · exact mem_storedIntegers_of_outOfRange (t := .list t)

/-- A list of optional lists: nulls become nulls, and an integer that is too large is found before what stands behind
it. -/
theorem convert_elementwise_nested :
    convert (.list (.option (.list .int16))) (.array [.array [.int8 5, .int2 (-1)], .null]) =
      .ok [some [5, -1], none] ∧
    integers (.list (.option (.list .int16))) [some [5, -1], none] = [5, -1] ∧
    convert (.list (.option (.list .int16))) (.array [.null, .array [.int4 70000, .null], .bool true]) =
      .error (.outOfRange 70000) ∧
    convert (.list (.option (.list .int16))) (.int2 5) = .error (.unexpected (.int2 5)) := by
  obtain ⟨hother, hok, herror, -, hintegers, -⟩ := convert_elementwise (.option (.list .int16))
  have hconverted : convert (.list (.option (.list .int16))) (.array [.array [.int8 5, .int2 (-1)], .null]) =
      .ok [some [5, -1], none] := (hok _ _).2 (.cons (.value nofun) (.cons (.null rfl) .nil))
  refine ⟨hconverted, (hintegers _ _ _ rfl hconverted).1, ?_, hother _ nofun⟩
  refine (herror _ _).2 ⟨[.null], .array [.int4 70000, .null], [.bool true], rfl, ?_, .value nofun⟩
  exact List.forall_mem_singleton.2 ⟨none, .null rfl⟩

end Target

end InProcessSql
