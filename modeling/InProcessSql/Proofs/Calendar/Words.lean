import InProcessSql.Calendar.DateTime
import InProcessSql.Number.Decimal

/-!
# Counting time in words

Days are counted in words of 32 bits and microseconds in words of 64 bits. The executor counts from the start
of the year 2000; on the way a timestamp is counted in seconds and microseconds from the start of the year
1970. Here each addition, subtraction and multiplication on that way has no result if it leaves its word.
`Date.daysInWords_eq` and `DateTime.microsInWords_eq` say that this never happens, up to the first and the last
day of the calendar, and `Date.ofDaysInWords_eq` and `DateTime.ofMicrosInWords_eq` say the same of the way back.

What a word keeps of a time are its whole microseconds: `TimeOfDay.ofMicros?_micros` and
`DateTime.ofMicros?_micros`.
-/

namespace InProcessSql.Number

/-- The integer, if it lies in the range. -/
def Range.checked (range : Range) (n : Int) : Option Int :=
  if range.lo ≤ n ∧ n ≤ range.hi then some n else none

theorem Range.checked_of_mem {range : Range} {n : Int} (hlo : range.lo ≤ n) (hhi : n ≤ range.hi) :
    range.checked n = some n := if_pos ⟨hlo, hhi⟩

/-- An integer of a word of 32 bits is left as it is. -/
theorem checked_signed32 {n : Int} (hlo : -2147483648 ≤ n) (hhi : n ≤ 2147483647) :
    (Range.signed 32).checked n = some n := Range.checked_of_mem hlo hhi

/-- An integer of a word of 64 bits is left as it is. -/
theorem checked_signed64 {n : Int} (hlo : -9223372036854775808 ≤ n) (hhi : n ≤ 9223372036854775807) :
    (Range.signed 64).checked n = some n := Range.checked_of_mem hlo hhi

end InProcessSql.Number

namespace InProcessSql.Calendar

open InProcessSql.Number

/-! ## Whole microseconds -/

namespace TimeOfDay

/-- The time with its fraction cut down to whole microseconds. -/
def wholeMicros (t : TimeOfDay) : TimeOfDay where
  seconds := t.seconds
  nanos := t.nanos / 1000 * 1000
  exists_time := by
    obtain ⟨hseconds, hnanos⟩ := t.exists_time
    exact ⟨hseconds, by omega⟩

/-- A time that tells no leap second is shown by a clock. -/
theorem isOnClock_of_isLeap {t : TimeOfDay} (h : t.isLeap = false) : t.IsOnClock := by
  intro hnanos
  rw [isLeap, decide_eq_true hnanos] at h
  cases h

/-- Outside leap seconds a time is counted in less than a day. -/
theorem micros_lt {t : TimeOfDay} (h : t.isLeap = false) : t.micros < 86400000000 := by
  have hseconds := t.exists_time.1
  have hnanos : t.nanos < 1000000000 := by simpa [isLeap] using h
  simp only [micros]
  omega

/-- Outside leap seconds a time is found by its microseconds, but for what they do not count. -/
theorem ofMicros?_micros {t : TimeOfDay} (h : t.isLeap = false) :
    ofMicros? t.micros = some t.wholeMicros := by
  have hnanos : t.nanos < 1000000000 := by simpa [isLeap] using h
  have hseconds : t.micros / 1000000 = t.wholeMicros.seconds := by
    simp only [micros, wholeMicros]
    omega
  have hfraction : t.micros % 1000000 * 1000 = t.wholeMicros.nanos := by
    simp only [micros, wholeMicros]
    omega
  have hnonneg : ¬(t.micros : Int) < 0 := by omega
  have hleap : t.wholeMicros.isLeap = false := by
    rw [isLeap, decide_eq_false_iff_not, ← hfraction]
    omega
  simp only [ofMicros?, hnonneg, if_false, Int.toNat_natCast, hseconds, hfraction]
  exact of?_self (isOnClock_of_isLeap hleap)

end TimeOfDay

namespace DateTime

/-- The timestamp with its fraction cut down to whole microseconds. -/
def wholeMicros (t : DateTime) : DateTime := ⟨t.date, t.time.wholeMicros⟩

/-- A timestamp is found by the number of its day and the microseconds of its time. -/
theorem ofMicros?_eq_some {n : Int} {date : Date} {time : TimeOfDay}
    (hdate : Date.ofDayNumber? (n / microsPerDay + epochDay) = some date)
    (htime : TimeOfDay.ofMicros? (n % microsPerDay) = some time) : ofMicros? n = some ⟨date, time⟩ := by
  unfold ofMicros?
  rw [hdate, htime]

/-- Outside leap seconds a timestamp is found by its microseconds, but for what they do not count. -/
theorem ofMicros?_micros {t : DateTime} (h : t.time.isLeap = false) :
    ofMicros? t.micros = some t.wholeMicros := by
  have hlt := TimeOfDay.micros_lt h
  have hday : t.micros / microsPerDay + epochDay = t.date.dayNumber := by
    simp only [micros, microsPerDay]
    omega
  have htime : t.micros % microsPerDay = t.time.micros := by
    simp only [micros, microsPerDay]
    omega
  refine ofMicros?_eq_some ?_ ?_
  · rw [hday, Date.ofDayNumber_dayNumber]
  · rw [htime, TimeOfDay.ofMicros?_micros h]

end DateTime

/-! ## Days -/

namespace Date

/-- The days of the calendar have numbers of eight digits. -/
theorem dayNumber_mem (d : Date) : -95746130 < d.dayNumber ∧ d.dayNumber ≤ 95745399 := by
  obtain ⟨hlo, hhi⟩ := d.dayNumber_bounds
  obtain ⟨⟨hmin, hmax⟩, -⟩ := d.exists_day
  have hfirst : daysBeforeYear minYear = -95746130 := by decide
  have hlast : daysBeforeYear (maxYear + 1) = 95745399 := by decide
  have h1 := daysBeforeYear_mono hmin
  have h2 := daysBeforeYear_mono (show d.year + 1 ≤ maxYear + 1 by omega)
  omega

/-- The days from the start of the year 2000 to a day, counted in words. -/
def daysInWords (d : Date) : Option Int := do
  let day ← (Range.signed 32).checked d.dayNumber
  (Range.signed 32).checked (day - epochDay)

/-- The day that comes so many days after the start of the year 2000, if the calendar has it, found by
counting in words. -/
def ofDaysInWords (n : Int) : Option (Option Date) := do
  let day ← (Range.signed 32).checked (n + epochDay)
  return ofDayNumber? day

/-- Counting the days to a day stays within words. -/
theorem daysInWords_eq (d : Date) : d.daysInWords = some (d.dayNumber - epochDay) := by
  obtain ⟨hlo, hhi⟩ := d.dayNumber_mem
  have hepoch : epochDay = 730120 := rfl
  have hday := @checked_signed32 d.dayNumber (by omega) (by omega)
  have hcount := @checked_signed32 (d.dayNumber - epochDay) (by omega) (by omega)
  rw [daysInWords, hday, Option.bind_eq_bind, Option.bind_some, hcount]

/-- Finding a day by the days to it stays within words. -/
theorem ofDaysInWords_eq (d : Date) : ofDaysInWords (d.dayNumber - epochDay) = some (some d) := by
  obtain ⟨hlo, hhi⟩ := d.dayNumber_mem
  have hday := @checked_signed32 d.dayNumber (by omega) (by omega)
  rw [ofDaysInWords, Int.sub_add_cancel, hday, Option.bind_eq_bind, Option.bind_some,
    ofDayNumber_dayNumber]
  rfl

end Date

/-! ## Microseconds -/

/-- The number of the first of January 1970. -/
def unixDay : Int := 719163

example : (Date.mk 1970 1 1 (by decide)).dayNumber = unixDay := by decide

/-- The microseconds from the start of the year 1970 to that of the year 2000. -/
def epochMicros : Int := 946684800000000

example : epochMicros = (epochDay - unixDay) * microsPerDay := by decide

namespace DateTime

/-- The whole microseconds from the start of the year 2000 to a timestamp, counted in words. -/
def microsInWords (t : DateTime) : Option Int := do
  let day ← (Range.signed 64).checked (t.date.dayNumber - unixDay)
  let start ← (Range.signed 64).checked (day * 86400)
  let seconds ← (Range.signed 64).checked (start + t.time.seconds)
  let whole ← (Range.signed 64).checked (seconds * 1000000)
  let micros ← (Range.signed 64).checked (whole + (t.time.nanos / 1000 : Nat))
  (Range.signed 64).checked (micros - epochMicros)

/-- The timestamp that many microseconds after the start of the year 2000, if the calendar has it, found by
counting in words. -/
def ofMicrosInWords (n : Int) : Option (Option DateTime) := do
  let micros ← (Range.signed 64).checked (n + epochMicros)
  let nanos ← (Range.signed 64).checked (micros % 1000000 * 1000)
  let day ← (Range.signed 64).checked (micros / 1000000 / 86400 + unixDay)
  return do
    let date ← Date.ofDayNumber? day
    let time ← TimeOfDay.of? (micros / 1000000 % 86400).toNat nanos.toNat
    return ⟨date, time⟩

/-- The microseconds to a timestamp leave room in a word for the years between 1970 and 2000. -/
theorem micros_mem (t : DateTime) :
    -9223372036854775808 ≤ t.micros ∧ t.micros + epochMicros ≤ 9223372036854775807 := by
  obtain ⟨hlo, hhi⟩ := t.date.dayNumber_mem
  obtain ⟨hseconds, hnanos⟩ := t.time.exists_time
  simp only [micros, TimeOfDay.micros, epochDay, microsPerDay, epochMicros]
  omega

/-- Counting the microseconds to a timestamp stays within words. -/
theorem microsInWords_eq (t : DateTime) : t.microsInWords = some t.micros := by
  obtain ⟨hlo, hhi⟩ := t.date.dayNumber_mem
  obtain ⟨hseconds, hnanos⟩ := t.time.exists_time
  have hunix : unixDay = 719163 := rfl
  -- Each step of the count is within a signed word of 64 bits, as the calendar ends before.
  have hday := @checked_signed64 (t.date.dayNumber - unixDay) (by omega) (by omega)
  have hstart := @checked_signed64 ((t.date.dayNumber - unixDay) * 86400) (by omega) (by omega)
  have hsecond := @checked_signed64 ((t.date.dayNumber - unixDay) * 86400 + t.time.seconds)
    (by omega) (by omega)
  have hwhole := @checked_signed64 (((t.date.dayNumber - unixDay) * 86400 + t.time.seconds) * 1000000)
    (by omega) (by omega)
  have hmicros := @checked_signed64
    (((t.date.dayNumber - unixDay) * 86400 + t.time.seconds) * 1000000 + (t.time.nanos / 1000 : Nat))
    (by omega) (by omega)
  have hcount : ((t.date.dayNumber - unixDay) * 86400 + t.time.seconds) * 1000000
      + (t.time.nanos / 1000 : Nat) - epochMicros = t.micros := by
    simp only [micros, TimeOfDay.micros, epochDay, microsPerDay, epochMicros]
    omega
  obtain ⟨hmin, hmax⟩ := t.micros_mem
  have hchecked := @checked_signed64 t.micros hmin (by simp only [epochMicros] at hmax; omega)
  simp only [microsInWords, Option.bind_eq_bind, hday, hstart, hsecond, hwhole, hmicros, hcount, hchecked,
    Option.bind_some]

/-- Finding a timestamp by microseconds stays within words, unless already the microseconds from the start of
the year 1970 do not. -/
theorem ofMicrosInWords_eq {n : Int} (hlo : -9223372036854775808 ≤ n)
    (hhi : n + epochMicros ≤ 9223372036854775807) : ofMicrosInWords n = some (ofMicros? n) := by
  have hepoch : epochMicros = 946684800000000 := rfl
  have hmicros := @checked_signed64 (n + epochMicros) (by omega) (by omega)
  have hnanos := @checked_signed64 ((n + epochMicros) % 1000000 * 1000) (by omega) (by omega)
  have hday := @checked_signed64 (n / microsPerDay + epochDay)
    (by simp only [microsPerDay, epochDay]; omega) (by simp only [microsPerDay, epochDay]; omega)
  -- Counting from 1970 and counting from 2000 find the same day and second.
  have hnumber : (n + epochMicros) / 1000000 / 86400 + unixDay = n / microsPerDay + epochDay := by
    simp only [epochMicros, unixDay, microsPerDay, epochDay]
    omega
  have hseconds : ((n + epochMicros) / 1000000 % 86400).toNat = (n % microsPerDay).toNat / 1000000 := by
    simp only [epochMicros, microsPerDay]
    omega
  have hfraction : ((n + epochMicros) % 1000000 * 1000).toNat
      = (n % microsPerDay).toNat % 1000000 * 1000 := by
    simp only [epochMicros, microsPerDay]
    omega
  have hnonneg : ¬n % microsPerDay < 0 := by
    simp only [microsPerDay]
    omega
  simp only [ofMicrosInWords, Option.bind_eq_bind, hmicros, hnanos, hday, Option.bind_some, hnumber,
    hseconds, hfraction]
  unfold ofMicros?
  rw [TimeOfDay.ofMicros?, if_neg hnonneg]
  cases Date.ofDayNumber? (n / microsPerDay + epochDay) with
  | none => rfl
  | some date => cases TimeOfDay.of? _ _ <;> rfl

end DateTime

end InProcessSql.Calendar
