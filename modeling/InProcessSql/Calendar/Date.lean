/-!
# Dates of the Gregorian calendar

A `Date` is a year, a month and a day that exist together, in the calendar extended to all years of a
fixed range; the year before year 1 is year 0. Days are also counted, from the first of January of
year 1, which is day 1: `Date.dayNumber` and `Date.ofDayNumber?`, which `ofDayNumber_dayNumber` and
`dayNumber_of_ofDayNumber` prove to be inverse.
-/

namespace InProcessSql.Calendar

/-! ## Years and months -/

/-- Whether a year has a twenty-ninth of February. -/
def isLeap (year : Int) : Bool := year % 4 == 0 && (year % 100 != 0 || year % 400 == 0)

/-- The number of days of a month, which is counted from 1. -/
def daysInMonth (year : Int) (month : Nat) : Nat :=
  match month with
  | 1 => 31
  | 2 => if isLeap year then 29 else 28
  | 3 => 31
  | 4 => 30
  | 5 => 31
  | 6 => 30
  | 7 => 31
  | 8 => 31
  | 9 => 30
  | 10 => 31
  | 11 => 30
  | 12 => 31
  | _ => 0

/-- The number of days of a year before a month. -/
def daysBeforeMonth (year : Int) : Nat → Nat
  | 0 => 0
  | month + 1 => daysBeforeMonth year month + daysInMonth year month

/-- The day number of the last day before a year. -/
def daysBeforeYear (year : Int) : Int :=
  365 * (year - 1) + (year - 1) / 4 - (year - 1) / 100 + (year - 1) / 400

def minYear : Int := -262143

def maxYear : Int := 262142

/-- The days that exist. -/
def IsDate (year : Int) (month day : Nat) : Prop :=
  (minYear ≤ year ∧ year ≤ maxYear) ∧ (1 ≤ month ∧ month ≤ 12) ∧ 1 ≤ day ∧ day ≤ daysInMonth year month

instance (year : Int) (month day : Nat) : Decidable (IsDate year month day) :=
  inferInstanceAs (Decidable (_ ∧ _))

/-- A day of the calendar. -/
structure Date where
  year : Int
  month : Nat
  day : Nat
  /-- Such a day exists. -/
  exists_day : IsDate year month day
  deriving DecidableEq, Repr

instance : Inhabited Date := ⟨⟨2000, 1, 1, by decide⟩⟩

namespace Date

/-- The day with the given year, month and day, if there is one. -/
def of? (year : Int) (month day : Nat) : Option Date :=
  if h : IsDate year month day then some ⟨year, month, day, h⟩ else none

/-- The number of a day. -/
def dayNumber (d : Date) : Int := daysBeforeYear d.year + daysBeforeMonth d.year d.month + d.day

end Date

/-! ## Finding a day by its number -/

/-- The year of a day number. The mean length of a year leads to it or to a neighbour. -/
def yearOfDay (n : Int) : Int :=
  let guess := 400 * (n - 1) / 146097 + 1
  if n ≤ daysBeforeYear guess then guess - 1
  else if daysBeforeYear (guess + 1) < n then guess + 1
  else guess

/-- The month and day that come `ordinal - 1` days after the first of `month`, looked for in that month
and the next `fuel` ones. -/
def monthDay (year : Int) (month ordinal : Nat) : Nat → Nat × Nat
  | 0 => (month, ordinal)
  | fuel + 1 =>
    if ordinal ≤ daysInMonth year month then (month, ordinal)
    else monthDay year (month + 1) (ordinal - daysInMonth year month) fuel

/-- The day with the given number, if the calendar has it. -/
def Date.ofDayNumber? (n : Int) : Option Date :=
  let year := yearOfDay n
  let (month, day) := monthDay year 1 (n - daysBeforeYear year).toNat 11
  Date.of? year month day

/-! ## The two directions are inverse -/

def daysInYear (year : Int) : Int := if isLeap year then 366 else 365

/-- Each year adds its own days. -/
theorem daysBeforeYear_succ (year : Int) :
    daysBeforeYear (year + 1) = daysBeforeYear year + daysInYear year := by
  simp only [daysBeforeYear, daysInYear, isLeap, Bool.and_eq_true, Bool.or_eq_true, beq_iff_eq,
    bne_iff_ne, ne_eq]
  split <;> omega

/-- Later years start later. -/
theorem daysBeforeYear_mono {a b : Int} (h : a ≤ b) : daysBeforeYear a ≤ daysBeforeYear b := by
  simp only [daysBeforeYear]
  omega

/-- The day of a number lies in the year that is found for it. -/
theorem yearOfDay_bounds (n : Int) :
    daysBeforeYear (yearOfDay n) < n ∧ n ≤ daysBeforeYear (yearOfDay n + 1) := by
  simp only [yearOfDay]
  split
  · simp only [daysBeforeYear] at *
    omega
  · split
    · simp only [daysBeforeYear] at *
      omega
    · omega

/-- A year whose days include the number is the year that is found for it. -/
theorem yearOfDay_eq {n year : Int} (h1 : daysBeforeYear year < n) (h2 : n ≤ daysBeforeYear (year + 1)) :
    yearOfDay n = year := by
  have hb := yearOfDay_bounds n
  rcases Int.lt_trichotomy (yearOfDay n) year with h | h | h
  · have := daysBeforeYear_mono (show yearOfDay n + 1 ≤ year by omega)
    omega
  · exact h
  · have := daysBeforeYear_mono (show year + 1 ≤ yearOfDay n by omega)
    omega

/-- The months of a year have the days of the year. -/
theorem daysBeforeMonth_thirteen (year : Int) : (daysBeforeMonth year 13 : Int) = daysInYear year := by
  simp only [daysBeforeMonth, daysInMonth, daysInYear]
  split <;> rfl

/-- Later months start later. -/
theorem daysBeforeMonth_mono (year : Int) {a b : Nat} (h : a ≤ b) :
    daysBeforeMonth year a ≤ daysBeforeMonth year b := by
  induction b with
  | zero =>
    have : a = 0 := by omega
    subst this
    exact Nat.le_refl _
  | succ b ih =>
    by_cases hab : a = b + 1
    · subst hab
      exact Nat.le_refl _
    · exact Nat.le_trans (ih (by omega)) (by simp [daysBeforeMonth])

/-- The month and day found for an ordinal lie in the months looked at, and are that many days away. -/
theorem monthDay_bounds {year : Int} {fuel month ordinal : Nat} (h1 : 1 ≤ ordinal) (hm : 1 ≤ month)
    (hf : month + fuel = 12) (h2 : daysBeforeMonth year month + ordinal ≤ daysBeforeMonth year 13) :
    let r := monthDay year month ordinal fuel
    (1 ≤ r.1 ∧ r.1 ≤ 12) ∧ (1 ≤ r.2 ∧ r.2 ≤ daysInMonth year r.1) ∧
      daysBeforeMonth year r.1 + r.2 = daysBeforeMonth year month + ordinal := by
  induction fuel generalizing month ordinal with
  | zero =>
    have : month = 12 := by omega
    subst this
    have h13 : daysBeforeMonth year 13 = daysBeforeMonth year 12 + daysInMonth year 12 := rfl
    refine ⟨⟨?_, ?_⟩, ⟨?_, ?_⟩, ?_⟩ <;> simp only [monthDay] <;> omega
  | succ fuel ih =>
    simp only [monthDay]
    split
    · refine ⟨⟨?_, ?_⟩, ⟨?_, ?_⟩, ?_⟩ <;> dsimp only <;> omega
    · have hs : daysBeforeMonth year (month + 1) = daysBeforeMonth year month + daysInMonth year month := rfl
      have := @ih (month + 1) (ordinal - daysInMonth year month)
        (by omega) (by omega) (by omega) (by omega)
      simp only at this ⊢
      omega

/-- A day is found by the number of days before it in its year. -/
theorem monthDay_eq {year : Int} {fuel month target day : Nat} (hm : month ≤ target)
    (hf : target ≤ month + fuel) (h1 : 1 ≤ day) (h2 : day ≤ daysInMonth year target) :
    monthDay year month (daysBeforeMonth year target - daysBeforeMonth year month + day) fuel
      = (target, day) := by
  induction fuel generalizing month with
  | zero =>
    have : target = month := by omega
    subst this
    simp [monthDay]
  | succ fuel ih =>
    have hs : daysBeforeMonth year (month + 1) = daysBeforeMonth year month + daysInMonth year month := rfl
    by_cases heq : target = month
    · subst heq
      simp [monthDay, h2]
    · have hmono := daysBeforeMonth_mono year (show month + 1 ≤ target by omega)
      have := @ih (month + 1) (by omega) (by omega)
      simp only [monthDay]
      rw [if_neg (by omega)]
      rw [← this]
      congr 1
      omega

namespace Date

theorem of?_eq_some {year : Int} {month day : Nat} {d : Date} (h : Date.of? year month day = some d) :
    d.year = year ∧ d.month = month ∧ d.day = day := by
  simp only [of?] at h
  split at h
  · simp only [Option.some.injEq] at h
    subst h
    exact ⟨rfl, rfl, rfl⟩
  · simp at h

/-- A date is the date of its own year, month and day. -/
theorem of?_self (d : Date) : Date.of? d.year d.month d.day = some d := by
  simp [of?, d.exists_day]

/-- A date lies in its year. -/
theorem dayNumber_bounds (d : Date) :
    daysBeforeYear d.year < d.dayNumber ∧ d.dayNumber ≤ daysBeforeYear (d.year + 1) := by
  obtain ⟨_, ⟨h1, h2⟩, h3, h4⟩ := d.exists_day
  have hmono := daysBeforeMonth_mono d.year (show d.month + 1 ≤ 13 by omega)
  have hs : daysBeforeMonth d.year (d.month + 1)
      = daysBeforeMonth d.year d.month + daysInMonth d.year d.month := rfl
  have h13 := daysBeforeMonth_thirteen d.year
  have hy := daysBeforeYear_succ d.year
  simp only [dayNumber]
  omega

/-- Every day is found by its number. -/
theorem ofDayNumber_dayNumber (d : Date) : Date.ofDayNumber? d.dayNumber = some d := by
  have hb := d.dayNumber_bounds
  have hy : yearOfDay d.dayNumber = d.year := yearOfDay_eq hb.1 hb.2
  obtain ⟨_, ⟨h1, h2⟩, h3, h4⟩ := d.exists_day
  have hn : (d.dayNumber - daysBeforeYear d.year).toNat
      = daysBeforeMonth d.year d.month - daysBeforeMonth d.year 1 + d.day := by
    have h0 : daysBeforeMonth d.year 1 = 0 := rfl
    simp only [dayNumber]
    omega
  simp only [ofDayNumber?, hy, hn]
  rw [monthDay_eq h1 (by omega) h3 h4]
  exact of?_self d

/-- A day that is found has the number it was found by. -/
theorem dayNumber_of_ofDayNumber {n : Int} {d : Date} (h : Date.ofDayNumber? n = some d) :
    d.dayNumber = n := by
  have hb := yearOfDay_bounds n
  have hy := daysBeforeYear_succ (yearOfDay n)
  have h13 := daysBeforeMonth_thirteen (yearOfDay n)
  have h1 : daysBeforeMonth (yearOfDay n) 1 = 0 := rfl
  have hm := @monthDay_bounds (yearOfDay n) 11 1 (n - daysBeforeYear (yearOfDay n)).toNat
    (by omega) (by omega) (by omega) (by omega)
  simp only [ofDayNumber?] at h
  obtain ⟨e1, e2, e3⟩ := of?_eq_some h
  simp only [dayNumber, e1, e2, e3]
  simp only at hm
  omega

/-- A number has a day exactly when its year is in the range of the calendar. -/
theorem ofDayNumber_isSome_iff {n : Int} :
    (Date.ofDayNumber? n).isSome ↔ minYear ≤ yearOfDay n ∧ yearOfDay n ≤ maxYear := by
  have hb := yearOfDay_bounds n
  have hy := daysBeforeYear_succ (yearOfDay n)
  have h13 := daysBeforeMonth_thirteen (yearOfDay n)
  have h1 : daysBeforeMonth (yearOfDay n) 1 = 0 := rfl
  have hm := @monthDay_bounds (yearOfDay n) 11 1 (n - daysBeforeYear (yearOfDay n)).toNat
    (by omega) (by omega) (by omega) (by omega)
  simp only at hm
  simp only [ofDayNumber?, of?]
  split
  · rename_i h
    simp [h.1]
  · rename_i h
    simp only [Option.isSome_none, Bool.false_eq_true, false_iff]
    intro hr
    exact h ⟨hr, hm.1, hm.2.1⟩

end Date

end InProcessSql.Calendar
