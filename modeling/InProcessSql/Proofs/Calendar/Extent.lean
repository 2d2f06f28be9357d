import InProcessSql.Proofs.Calendar.Words

/-!
# The extent of the calendar

The calendar has every day from `Date.first` to `Date.last`, a day has every microsecond below
`microsPerDay`, and so there is a timestamp for every number of microseconds between those of `DateTime.first`
and `DateTime.last`: `Date.exists_ofDayNumber?_iff`, `TimeOfDay.exists_ofMicros?_iff` and
`DateTime.exists_ofMicros?_iff`. What is found by a number has that number, and a time that is found by its
microseconds lies in no leap second.

Beyond words there are no days: counting in words finds what counting without bounds finds
(`Date.join_ofDaysInWords`, `DateTime.join_ofMicrosInWords`).
-/

namespace InProcessSql.Calendar

open InProcessSql.Number

/-- An integer out of range is left out. -/
theorem checked_eq_none {range : Range} {n : Int} (h : n < range.lo ∨ range.hi < n) :
    range.checked n = none := if_neg (by omega)

/-! ## Days -/

namespace Date

def first : Date := ⟨minYear, 1, 1, by decide⟩

def last : Date := ⟨maxYear, 12, 31, by decide⟩

theorem dayNumber_first : first.dayNumber = -95746129 := by decide

theorem dayNumber_last : last.dayNumber = 95745399 := by decide

/-- The calendar has the days from the first to the last one. -/
theorem exists_ofDayNumber?_iff {n : Int} :
    (∃ d, ofDayNumber? n = some d) ↔ first.dayNumber ≤ n ∧ n ≤ last.dayNumber := by
  have hfirst : daysBeforeYear minYear = -95746130 := by decide
  have hlast : daysBeforeYear (maxYear + 1) = 95745399 := by decide
  obtain ⟨hlo, hhi⟩ := yearOfDay_bounds n
  rw [← Option.isSome_iff_exists, ofDayNumber_isSome_iff, dayNumber_first, dayNumber_last]
  constructor
  · rintro ⟨hmin, hmax⟩
    have hstart := daysBeforeYear_mono hmin
    have hend := daysBeforeYear_mono (show yearOfDay n + 1 ≤ maxYear + 1 by omega)
    omega
  · rintro ⟨hmin, hmax⟩
    -- A year beyond either end has only days beyond it.
    refine ⟨Int.not_lt.1 fun hyear => ?_, Int.not_lt.1 fun hyear => ?_⟩
    · have := daysBeforeYear_mono (show yearOfDay n + 1 ≤ minYear by omega)
      omega
    · have := daysBeforeYear_mono (show maxYear + 1 ≤ yearOfDay n by omega)
      omega

/-- A day that is beyond the words on the way to it is no day of the calendar. -/
theorem join_ofDaysInWords (n : Int) : (ofDaysInWords n).join = ofDayNumber? (n + epochDay) := by
  by_cases hword : -2147483648 ≤ n + epochDay ∧ n + epochDay ≤ 2147483647
  · rw [ofDaysInWords, checked_signed32 hword.1 hword.2]
    rfl
  · have hnone : ofDayNumber? (n + epochDay) = none := by
      refine Option.eq_none_iff_forall_ne_some.2 fun d hd => ?_
      have hrange := exists_ofDayNumber?_iff.1 ⟨d, hd⟩
      rw [dayNumber_first, dayNumber_last] at hrange
      omega
    have hbeyond : (Range.signed 32).checked (n + epochDay) = none :=
      checked_eq_none (show n + epochDay < -2147483648 ∨ 2147483647 < n + epochDay by omega)
    rw [ofDaysInWords, hbeyond, hnone]
    rfl

end Date

/-! ## Times of day -/

namespace TimeOfDay

/-- A day has the microseconds below `microsPerDay`. -/
theorem exists_ofMicros?_iff {n : Int} :
    (∃ t, ofMicros? n = some t) ↔ 0 ≤ n ∧ n < microsPerDay := by
  have hday : microsPerDay = 86400000000 := rfl
  by_cases hneg : n < 0
  · have hnone : ofMicros? n = none := if_pos hneg
    rw [hnone]
    exact iff_of_false nofun (by omega)
  · have hfound : ofMicros? n = of? (n.toNat / 1000000) (n.toNat % 1000000 * 1000) := if_neg hneg
    rw [hfound]
    constructor
    · rintro ⟨t, ht⟩
      obtain ⟨hseconds, -, -⟩ := of?_eq_some_iff.1 ht
      have hlast := t.exists_time.1
      omega
    · rintro ⟨-, hlt⟩
      have htime : IsTime (n.toNat / 1000000) (n.toNat % 1000000 * 1000) := ⟨by omega, by omega⟩
      -- Whole microseconds of a second tell no leap second.
      have hclock : IsOnClock ⟨_, _, htime⟩ := fun hleap => absurd hleap (by dsimp only; omega)
      exact ⟨_, of?_self hclock⟩

/-- A time has the number of microseconds by which it is found, and lies in no leap second. -/
theorem eq_of_ofMicros? {n : Int} {t : TimeOfDay} (h : ofMicros? n = some t) :
    (t.micros : Int) = n ∧ t.isLeap = false := by
  obtain ⟨hlo, hhi⟩ := exists_ofMicros?_iff.1 ⟨t, h⟩
  rw [ofMicros?, if_neg (by omega)] at h
  obtain ⟨hseconds, hnanos, -⟩ := of?_eq_some_iff.1 h
  simp only [micros, isLeap, hseconds, hnanos, decide_eq_false_iff_not]
  omega

/-- Whether a time lies in the leap second behind the last second of the day. -/
def IsBehindDay (t : TimeOfDay) : Prop := t.seconds = 86399 ∧ t.isLeap = true

/-- Only such a time is not counted in less than a day. -/
theorem micros_lt_microsPerDay_iff {t : TimeOfDay} : (t.micros : Int) < microsPerDay ↔ ¬t.IsBehindDay := by
  obtain ⟨hseconds, hnanos⟩ := t.exists_time
  simp only [micros, microsPerDay, IsBehindDay, isLeap, decide_eq_true_eq]
  omega

end TimeOfDay

/-! ## Timestamps -/

namespace DateTime

theorem isTime_midnight : IsTime 0 0 := by decide

def first : DateTime := ⟨Date.first, ⟨0, 0, isTime_midnight⟩⟩

def last : DateTime := ⟨Date.last, ⟨86399, 999999999, by decide⟩⟩

theorem micros_first : first.micros = -8335547913600000000 := by decide

theorem micros_last : last.micros = 8209320191999999999 := by decide

/-- A timestamp has the number of microseconds by which it is found, and lies in no leap second. -/
theorem eq_of_ofMicros? {n : Int} {t : DateTime} (h : ofMicros? n = some t) :
    t.micros = n ∧ t.time.isLeap = false := by
  unfold ofMicros? at h
  split at h
  · next date time hdate htime =>
    cases h
    obtain ⟨hmicros, hleap⟩ := TimeOfDay.eq_of_ofMicros? htime
    have hday := Date.dayNumber_of_ofDayNumber hdate
    refine ⟨?_, hleap⟩
    simp only [micros, hmicros, hday, microsPerDay]
    omega
  · cases h

/-- The calendar has the timestamps from the first to the last one. -/
theorem exists_ofMicros?_iff {n : Int} :
    (∃ t, ofMicros? n = some t) ↔ first.micros ≤ n ∧ n ≤ last.micros := by
  obtain ⟨time, htime⟩ := TimeOfDay.exists_ofMicros?_iff.2
    (show 0 ≤ n % microsPerDay ∧ n % microsPerDay < microsPerDay by simp only [microsPerDay]; omega)
  have hdate : (∃ date, Date.ofDayNumber? (n / microsPerDay + epochDay) = some date) ↔
      first.micros ≤ n ∧ n ≤ last.micros := by
    rw [Date.exists_ofDayNumber?_iff, Date.dayNumber_first, Date.dayNumber_last, micros_first, micros_last]
    simp only [microsPerDay, epochDay]
    omega
  rw [← hdate]
  constructor
  · rintro ⟨t, ht⟩
    unfold ofMicros? at ht
    split at ht
    · next date _ hfound _ => exact ⟨date, hfound⟩
    · cases ht
  · rintro ⟨date, hfound⟩
    exact ⟨_, ofMicros?_eq_some hfound htime⟩

/-- A timestamp that is beyond the words on the way to it is no timestamp of the calendar. -/
theorem join_ofMicrosInWords {n : Int} (hlo : -9223372036854775808 ≤ n) :
    (ofMicrosInWords n).join = ofMicros? n := by
  have hepoch : epochMicros = 946684800000000 := rfl
  by_cases hword : n + epochMicros ≤ 9223372036854775807
  · rw [ofMicrosInWords_eq hlo hword]
    rfl
  · have hnone : ofMicros? n = none := by
      refine Option.eq_none_iff_forall_ne_some.2 fun t ht => ?_
      have hrange := exists_ofMicros?_iff.1 ⟨t, ht⟩
      rw [micros_last] at hrange
      omega
    have hbeyond : (Range.signed 64).checked (n + epochMicros) = none :=
      checked_eq_none (show _ ∨ (9223372036854775807 : Int) < n + epochMicros from .inr (by omega))
    rw [ofMicrosInWords, hbeyond, hnone]
    rfl

end DateTime

end InProcessSql.Calendar
