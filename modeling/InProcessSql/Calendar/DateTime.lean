import InProcessSql.Calendar.Date

/-!
# Times of day and timestamps

A `TimeOfDay` is a second of the day and a fraction of it in nanoseconds. The fraction may run through a second time,
which is how a leap second is told. A time that is made of seconds and nanoseconds tells one only in the last second
of a minute, but a fraction that is changed afterwards tells one behind any second. A `DateTime` is a day and a time
of day.

Both are counted in whole microseconds: times from midnight, timestamps from the start of the year 2000.
-/

namespace InProcessSql.Calendar

/-! ## Times of day -/

/-- The seconds and nanoseconds that are a time of day. -/
def IsTime (seconds nanos : Nat) : Prop := seconds < 86400 ∧ nanos < 2000000000

instance (seconds nanos : Nat) : Decidable (IsTime seconds nanos) :=
  inferInstanceAs (Decidable (_ ∧ _))

/-- A time of day. -/
structure TimeOfDay where
  seconds : Nat
  /-- The nanoseconds since that second; a thousand million or more tell a leap second. -/
  nanos : Nat
  exists_time : IsTime seconds nanos
  deriving DecidableEq, Repr

instance : Inhabited TimeOfDay := ⟨⟨0, 0, by decide⟩⟩

namespace TimeOfDay

/-- Whether a leap second, if the time tells one, is the sixtieth second of a minute. -/
def IsOnClock (t : TimeOfDay) : Prop := 1000000000 ≤ t.nanos → t.seconds % 60 = 59

instance (t : TimeOfDay) : Decidable t.IsOnClock := inferInstanceAs (Decidable (_ → _))

/-- The time with the given seconds and nanoseconds, if they are one that a clock shows. -/
def of? (seconds nanos : Nat) : Option TimeOfDay :=
  if h : IsTime seconds nanos then
    let t : TimeOfDay := ⟨seconds, nanos, h⟩
    if t.IsOnClock then some t else none
  else none

/-- The time with the given clock reading. The sixtieth second of a minute is a leap second. -/
def ofClock? (hour minute second nanos : Nat) : Option TimeOfDay :=
  if second = 60 then of? (hour * 3600 + minute * 60 + 59) (1000000000 + nanos)
  else of? (hour * 3600 + minute * 60 + second) nanos

def hour (t : TimeOfDay) : Nat := t.seconds / 3600

def minute (t : TimeOfDay) : Nat := t.seconds / 60 % 60

/-- The second that a clock shows, which is 60 in a leap second. -/
def second (t : TimeOfDay) : Nat := t.seconds % 60 + t.nanos / 1000000000

/-- The nanoseconds that a clock shows. -/
def fraction (t : TimeOfDay) : Nat := t.nanos % 1000000000

/-- Whether the time lies in a leap second. -/
def isLeap (t : TimeOfDay) : Bool := decide (1000000000 ≤ t.nanos)

/-- The whole microseconds since midnight. -/
def micros (t : TimeOfDay) : Nat := t.seconds * 1000000 + t.nanos / 1000

/-- The time that many microseconds after midnight. -/
def ofMicros? (n : Int) : Option TimeOfDay :=
  if n < 0 then none else of? (n.toNat / 1000000) (n.toNat % 1000000 * 1000)

/-- The time moved back by a whole number of seconds, around midnight if need be. The fraction of the second stays as
it is, whether or not a clock shows it behind the new second. -/
def minusSeconds (t : TimeOfDay) (offset : Int) : TimeOfDay where
  seconds := (((t.seconds : Int) - offset) % 86400).toNat
  nanos := t.nanos
  exists_time := by
    obtain ⟨-, hnanos⟩ := t.exists_time
    exact ⟨by omega, hnanos⟩

theorem of?_self {t : TimeOfDay} (h : t.IsOnClock) : of? t.seconds t.nanos = some t := by
  rw [of?, dif_pos t.exists_time]
  exact if_pos h

/-- Seconds and nanoseconds are a time if they are in their bounds, and the fraction exceeds a second at the end of a
minute only. -/
theorem of?_eq_some_iff {seconds nanos : Nat} {t : TimeOfDay} :
    of? seconds nanos = some t ↔ t.seconds = seconds ∧ t.nanos = nanos ∧ t.IsOnClock := by
  constructor
  · intro h
    rw [of?] at h
    split at h
    · dsimp only at h
      split at h
      · next hclock =>
        cases h
        exact ⟨rfl, rfl, hclock⟩
      · cases h
    · cases h
  · rintro ⟨rfl, rfl, hclock⟩
    exact of?_self hclock

end TimeOfDay

/-! ## Timestamps -/

/-- A day and a time of day. -/
structure DateTime where
  date : Date
  time : TimeOfDay
  deriving DecidableEq, Repr, Inhabited

/-- The number of the first of January 2000, from which timestamps are counted. -/
def epochDay : Int := 730120

example : (Date.mk 2000 1 1 (by decide)).dayNumber = epochDay := by decide

def microsPerDay : Int := 86400000000

namespace DateTime

/-- The whole microseconds since the start of the year 2000. -/
def micros (t : DateTime) : Int := (t.date.dayNumber - epochDay) * microsPerDay + t.time.micros

/-- The timestamp that many microseconds after the start of the year 2000, if the calendar has it. -/
def ofMicros? (n : Int) : Option DateTime :=
  match Date.ofDayNumber? (n / microsPerDay + epochDay), TimeOfDay.ofMicros? (n % microsPerDay) with
  | some date, some time => some ⟨date, time⟩
  | _, _ => none

/-- The timestamp moved back by a whole number of seconds, if the calendar has it. -/
def minusSeconds? (t : DateTime) (offset : Int) : Option DateTime :=
  let days := ((t.time.seconds : Int) - offset) / 86400
  (Date.ofDayNumber? (t.date.dayNumber + days)).map fun date => ⟨date, t.time.minusSeconds offset⟩

end DateTime

end InProcessSql.Calendar
