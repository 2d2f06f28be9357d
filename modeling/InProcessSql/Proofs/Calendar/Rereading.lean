import Mathlib
import InProcessSql.Calendar.Text

/-!
# Written dates and times are read back

Each reader of a field takes the field as it is written, and leaves what follows. So a written date is read
as that date, whatever its year, a time of day with its fraction, also in a leap second, and a timestamp
with time zone at the offset of universal time. The exception are leap seconds that do not end a minute: they are
written as the second that comes next, and `TimeOfDay.onClock` is the time that is read then.
-/

namespace InProcessSql.Calendar

open InProcessSql.Number InProcessSql.Text

/-! ## Readers in sequence -/

/-- A reader goes on with the text that the one before it has left. -/
theorem scan_bind_of_ok {α β : Type} {x : Scan α} {f : α → Scan β} {cs rest : List Char} {a : α}
    (h : x cs = .ok (a, rest)) : (x >>= f) cs = f a rest := by
  show (x cs >>= fun p => f p.1 p.2) = f a rest
  rw [h]
  rfl

/-! ## Digits -/

/-- No digit stands at the start of the text. -/
def NoDigitFirst (cs : List Char) : Prop := ∀ c ∈ cs.head?, c.isDigit = false

theorem noDigitFirst_nil : NoDigitFirst [] := by
  intro c hc
  cases hc

theorem noDigitFirst_cons {c : Char} (h : c.isDigit = false) (cs : List Char) : NoDigitFirst (c :: cs) := by
  intro d hd
  obtain rfl := Option.some.inj hd
  exact h

/-- No digit is a blank. -/
theorem isBlank_of_isDigit {c : Char} (h : c.isDigit = true) : isBlank c = false := by
  simp only [Char.isDigit, ge_iff_le, Bool.and_eq_true, decide_eq_true_eq, UInt32.le_iff_toNat_le] at h
  have hlo : 48 ≤ c.toNat := h.1
  have hhi : c.toNat ≤ 57 := h.2
  simp only [isBlank, Bool.or_eq_false_iff, Bool.and_eq_false_iff, decide_eq_false_iff_not,
    beq_eq_false_iff_ne]
  omega

/-- A number that fits a field is read from its digits, if the count or the text behind ends it. -/
theorem digitsOnto_append {ds rest : List Char} {acc count : Nat} (hd : ∀ c ∈ ds, c.isDigit = true)
    (hmax : Nat.ofDigitChars 10 ds acc ≤ maxField) (hcount : ds.length ≤ count)
    (hrest : ds.length = count ∨ NoDigitFirst rest) :
    digitsOnto acc count (ds ++ rest) = .ok (Nat.ofDigitChars 10 ds acc, rest) := by
  induction ds generalizing acc count with
  | nil =>
    cases count with
    | zero => rfl
    | succ count =>
      cases rest with
      | nil => rfl
      | cons c rest =>
        have hc : c.isDigit = false := hrest.resolve_left (by simp) c rfl
        simp [digitsOnto, hc]
  | cons d ds ih =>
    cases count with
    | zero => simp at hcount
    | succ count =>
      have hdigit : d.isDigit = true := hd d (List.mem_cons_self ..)
      have hvalue : d.toNat - '0'.toNat = digitValue d := rfl
      rw [Nat.ofDigitChars_cons, hvalue] at hmax ⊢
      -- What has been read is at most the whole number, and does not overflow before it.
      have hnext : 10 * acc + digitValue d ≤ maxField := by
        rw [Nat.ofDigitChars_eq_ofDigitChars_zero] at hmax
        have hpow : 0 < 10 ^ ds.length := Nat.pow_pos (by omega)
        have hgrow := Nat.le_mul_of_pos_left (10 * acc + digitValue d) hpow
        omega
      rw [List.cons_append, digitsOnto, if_pos hdigit]
      simp only [if_neg (Nat.not_lt.2 hnext)]
      apply ih (fun c hc => hd c (List.mem_cons_of_mem d hc)) hmax
      · simpa using hcount
      · simpa using hrest

/-- Digits are read as the number that they spell. -/
theorem scanNumber_append {ds rest : List Char} {count : Nat} (hne : ds ≠ [])
    (hd : ∀ c ∈ ds, c.isDigit = true) (hmax : ofDigits ds ≤ maxField) (hcount : ds.length ≤ count)
    (hrest : ds.length = count ∨ NoDigitFirst rest) :
    scanNumber count (ds ++ rest) = .ok (ofDigits ds, rest) := by
  obtain ⟨d, more, rfl⟩ := List.exists_cons_of_ne_nil hne
  rw [List.cons_append, scanNumber, if_pos (hd d (List.mem_cons_self ..))]
  exact digitsOnto_append hd hmax hcount hrest

/-! ## Padded numbers -/

/-- A padded number has digits only. -/
theorem isDigit_of_mem_digitsPadded {width n : Nat} {c : Char} (h : c ∈ digitsPadded width n) :
    c.isDigit = true := by
  rcases List.mem_append.1 h with hzero | hdigit
  · rw [List.eq_of_mem_replicate hzero]
    decide
  · exact isDigit_of_mem_digits hdigit

/-- Leading zeros do not count. -/
theorem ofDigits_digitsPadded (width n : Nat) : ofDigits (digitsPadded width n) = n := by
  rw [ofDigits, digitsPadded, Nat.ofDigitChars_append, Nat.ofDigitChars_replicate_zero, Nat.mul_zero]
  exact ofDigits_digits n

/-- A number that fits is as wide as it is padded. -/
theorem length_digitsPadded {width n : Nat} (hwidth : 0 < width) (hn : n < 10 ^ width) :
    (digitsPadded width n).length = width := by
  have hle : (digits n).length ≤ width := (Nat.length_toDigits_le_iff (by omega) hwidth).2 hn
  rw [digitsPadded, List.length_append, List.length_replicate]
  omega

theorem digitsPadded_ne_nil (width n : Nat) : digitsPadded width n ≠ [] := by
  intro h
  exact digits_ne_nil n (List.append_eq_nil_iff.1 h).2

/-- The first character of a padded number is a digit. -/
theorem exists_cons_digitsPadded (width n : Nat) :
    ∃ d ds, digitsPadded width n = d :: ds ∧ d.isDigit = true := by
  obtain ⟨d, ds, h⟩ := List.exists_cons_of_ne_nil (digitsPadded_ne_nil width n)
  have hd : d ∈ digitsPadded width n := by
    rw [h]
    exact List.mem_cons_self ..
  exact ⟨d, ds, h, isDigit_of_mem_digitsPadded hd⟩

theorem maxField_eq : maxField = 9223372036854775807 := by decide

/-- A padded number is read back, if it has as many digits as are read or no digit stands behind it. -/
theorem scanNumber_digitsPadded {width count n : Nat} {rest : List Char} (hmax : n ≤ maxField)
    (hcount : (digitsPadded width n).length ≤ count)
    (hrest : (digitsPadded width n).length = count ∨ NoDigitFirst rest) :
    scanNumber count (digitsPadded width n ++ rest) = .ok (n, rest) := by
  have hvalue := ofDigits_digitsPadded width n
  have hscan := scanNumber_append (digitsPadded_ne_nil width n) (fun c hc => isDigit_of_mem_digitsPadded hc)
    (hvalue.symm ▸ hmax) hcount hrest
  rwa [hvalue] at hscan

/-! ## Fields -/

/-- Blanks are not skipped where a digit stands. -/
theorem skipWhile_isBlank_digitsPadded (width n : Nat) (rest : List Char) :
    skipWhile isBlank (digitsPadded width n ++ rest) = .ok ((), digitsPadded width n ++ rest) := by
  obtain ⟨d, ds, h, hd⟩ := exists_cons_digitsPadded width n
  rw [skipWhile, h, List.cons_append, List.dropWhile_cons_of_neg (by simp [isBlank_of_isDigit hd])]

/-- A field of two digits is read back, whatever follows. -/
theorem scanField_digitsPadded {lo hi n : Nat} (hlo : lo ≤ n) (hhi : n ≤ hi) (hn : n < 100)
    (rest : List Char) : scanField lo hi (digitsPadded 2 n ++ rest) = .ok (n, rest) := by
  have hlength := length_digitsPadded (show 0 < 2 by omega) (show n < 10 ^ 2 from hn)
  have hnumber : scanNumber 2 (digitsPadded 2 n ++ rest) = .ok (n, rest) :=
    scanNumber_digitsPadded (by rw [maxField_eq]; omega) (Nat.le_of_eq hlength) (.inl hlength)
  rw [scanField, scan_bind_of_ok (skipWhile_isBlank_digitsPadded 2 n rest), scan_bind_of_ok hnumber]
  simp [require, hlo, hhi]
  rfl

theorem scanChar_self (c : Char) (rest : List Char) : scanChar c (c :: rest) = .ok ((), rest) := by
  rw [scanChar, beq_self_eq_true, if_pos rfl]

/-- The years of the calendar fit 32 bits. -/
theorem checkYear_ok {year : Int} (hmin : minYear ≤ year) (hmax : year ≤ maxYear) :
    checkYear year = .ok year := by
  have hpow : (Nat.pow 2 31 : Int) = 2147483648 := by decide
  rw [checkYear, require, if_pos]
  rw [Bool.and_eq_true, decide_eq_true_eq, decide_eq_true_eq, hpow]
  rw [minYear] at hmin
  rw [maxYear] at hmax
  omega

/-- A year that starts with a digit has no sign. -/
theorem scanYearSign_of_isDigit {d : Char} (hd : d.isDigit = true) (cs : List Char) :
    scanYearSign (d :: cs) = .ok (none, d :: cs) := by
  unfold scanYearSign
  split
  · rename_i heq
    cases heq
    cases hd
  · rename_i heq
    cases heq
    cases hd
  · rfl

/-- Without a sign four digits are read. -/
theorem scanYear_unsigned {n : Nat} (hn : n < 10000) {year : Int} (hyear : checkYear n = .ok year)
    (rest : List Char) : scanYear (digitsPadded 4 n ++ rest) = .ok (year, rest) := by
  have hlength := length_digitsPadded (show 0 < 4 by omega) (show n < 10 ^ 4 from hn)
  have hsign : scanYearSign (digitsPadded 4 n ++ rest) = .ok (none, digitsPadded 4 n ++ rest) := by
    obtain ⟨d, ds, h, hd⟩ := exists_cons_digitsPadded 4 n
    rw [h]
    exact scanYearSign_of_isDigit hd (ds ++ rest)
  have hnumber : scanNumber 4 (digitsPadded 4 n ++ rest) = .ok (n, rest) :=
    scanNumber_digitsPadded (by rw [maxField_eq]; omega) (Nat.le_of_eq hlength) (.inl hlength)
  rw [scanYear, scan_bind_of_ok (skipWhile_isBlank_digitsPadded 4 n rest), scan_bind_of_ok hsign]
  simp only
  rw [scan_bind_of_ok hnumber, hyear]
  rfl

/-- Behind a sign all digits count, however many there are. -/
theorem scanYear_signed (negative : Bool) {n : Nat} (hn : n ≤ maxField) {year : Int}
    (hyear : checkYear (if negative then -(n : Int) else n) = .ok year) {rest : List Char}
    (hrest : NoDigitFirst rest) :
    scanYear ((if negative then '-' else '+') :: digitsPadded 4 n ++ rest) = .ok (year, rest) := by
  have hskip : ∀ cs : List Char, skipWhile isBlank ((if negative then '-' else '+') :: cs)
      = .ok ((), (if negative then '-' else '+') :: cs) := by
    intro cs
    cases negative <;> rfl
  have hsign : ∀ cs : List Char, scanYearSign ((if negative then '-' else '+') :: cs)
      = .ok (some negative, cs) := by
    intro cs
    cases negative <;> rfl
  have hget : ∀ cs : List Char, (get : Scan (List Char)) cs = .ok (cs, cs) := fun _ => rfl
  have hnumber : scanNumber (digitsPadded 4 n ++ rest).length (digitsPadded 4 n ++ rest) = .ok (n, rest) :=
    scanNumber_digitsPadded hn (by simp) (.inr hrest)
  rw [scanYear, List.cons_append, scan_bind_of_ok (hskip _), scan_bind_of_ok (hsign _)]
  simp only
  rw [scan_bind_of_ok (hget _), scan_bind_of_ok hnumber, hyear]
  rfl

/-- A year is read back from four digits, or from a sign and at least four. -/
theorem scanYear_writeYear {year : Int} (hmin : minYear ≤ year) (hmax : year ≤ maxYear) {rest : List Char}
    (hrest : NoDigitFirst rest) : scanYear (writeYear year ++ rest) = .ok (year, rest) := by
  have hcheck := checkYear_ok hmin hmax
  rw [writeYear]
  by_cases hsmall : 0 ≤ year ∧ year ≤ 9999
  · rw [if_pos hsmall]
    apply scanYear_unsigned (by omega)
    rwa [show (year.natAbs : Int) = year by omega]
  · -- Any other year has a sign, so that all of its digits are read.
    rw [if_neg hsmall]
    have hfield : year.natAbs ≤ maxField := by
      rw [minYear] at hmin
      rw [maxYear] at hmax
      rw [maxField_eq]
      omega
    have hvalue : (if decide (year < 0) = true then -(year.natAbs : Int) else year.natAbs) = year := by
      by_cases hneg : year < 0
      · rw [if_pos (decide_eq_true hneg)]
        omega
      · rw [if_neg (by simpa using hneg)]
        omega
    have hyear : checkYear (if decide (year < 0) = true then -(year.natAbs : Int) else year.natAbs)
        = .ok year := by
      rw [hvalue]
      exact hcheck
    have hscan := scanYear_signed (decide (year < 0)) hfield hyear hrest
    simpa only [decide_eq_true_eq] using hscan

/-! ## Fractions -/

theorem dropWhile_isDigit_of_noDigitFirst {rest : List Char} (h : NoDigitFirst rest) :
    rest.dropWhile Char.isDigit = rest := by
  cases rest with
  | nil => rfl
  | cons c rest => rw [List.dropWhile_cons_of_neg (by simp [h c rfl])]

/-- A fraction of so many digits is read back, up to nine of them. -/
theorem scanFraction_digitsPadded {width n : Nat} (hwidth : 0 < width) (hnine : width ≤ 9)
    (hn : n < 10 ^ width) {rest : List Char} (hrest : NoDigitFirst rest) :
    scanFraction ('.' :: digitsPadded width n ++ rest) = .ok (n * 10 ^ (9 - width), rest) := by
  have hlength := length_digitsPadded hwidth hn
  have hfield : n ≤ maxField := by
    have hpow : 10 ^ width ≤ 10 ^ 9 := Nat.pow_le_pow_right (by omega) hnine
    rw [maxField_eq]
    omega
  have hnumber : scanNumber 9 (digitsPadded width n ++ rest) = .ok (n, rest) :=
    scanNumber_digitsPadded hfield (by omega) (.inr hrest)
  have hcount : (digitsPadded width n ++ rest).length - rest.length = width := by
    rw [List.length_append]
    omega
  rw [List.cons_append, scanFraction, hnumber]
  simp only [hcount, dropWhile_isDigit_of_noDigitFirst hrest]
  rfl

/-- A fraction of a second is read back, if neither a digit nor a dot stands behind it. -/
theorem scanFraction_writeFraction {nanos : Nat} (h : nanos < 1000000000) {rest : List Char}
    (hrest : NoDigitFirst rest) (hdot : rest.head? ≠ some '.') :
    scanFraction (writeFraction nanos ++ rest) = .ok (nanos, rest) := by
  rw [writeFraction]
  by_cases hzero : nanos = 0
  · rw [if_pos hzero, hzero, List.nil_append]
    unfold scanFraction
    split
    · exact absurd rfl hdot
    · rfl
  rw [if_neg hzero]
  by_cases hmillis : nanos % 1000000 = 0
  · rw [if_pos hmillis, scanFraction_digitsPadded (by omega) (by omega) (by omega) hrest,
      show nanos / 1000000 * 10 ^ (9 - 3) = nanos by omega]
  rw [if_neg hmillis]
  by_cases hmicros : nanos % 1000 = 0
  · rw [if_pos hmicros, scanFraction_digitsPadded (by omega) (by omega) (by omega) hrest,
      show nanos / 1000 * 10 ^ (9 - 6) = nanos by omega]
  · rw [if_neg hmicros, scanFraction_digitsPadded (by omega) (by omega) (by omega) hrest,
      show nanos * 10 ^ (9 - 9) = nanos by omega]

/-! ## Clocks -/

namespace TimeOfDay

/-- The time that a clock shows. A leap second behind any but the last second of a minute looks like the second that
comes next. -/
def onClock (t : TimeOfDay) : TimeOfDay :=
  if h : t.IsOnClock then t
  else
    { seconds := t.seconds + 1
      nanos := t.nanos - 1000000000
      exists_time := by
        obtain ⟨hseconds, hnanos⟩ := t.exists_time
        simp only [IsOnClock] at h
        exact ⟨by omega, by omega⟩ }

/-- A time that a clock shows is shown as itself. -/
theorem onClock_of_isOnClock {t : TimeOfDay} (h : t.IsOnClock) : t.onClock = t := dif_pos h

/-- What a clock shows is a time that it shows. -/
theorem isOnClock_onClock (t : TimeOfDay) : t.onClock.IsOnClock := by
  by_cases h : t.IsOnClock
  · rwa [onClock_of_isOnClock h]
  · have hnanos := t.exists_time.2
    rw [onClock, dif_neg h]
    exact fun hleap => absurd hleap (by dsimp only; omega)

/-- Only a time that a clock shows is shown as itself. -/
theorem onClock_eq_self_iff {t : TimeOfDay} : t.onClock = t ↔ t.IsOnClock := by
  refine ⟨fun h => ?_, onClock_of_isOnClock⟩
  rw [← h]
  exact isOnClock_onClock t

/-- A time that a clock shows is the time of its own clock reading. -/
theorem ofClock?_self {t : TimeOfDay} (h : t.IsOnClock) :
    ofClock? t.hour t.minute t.second t.fraction = some t := by
  have hnanos := t.exists_time.2
  rw [IsOnClock] at h
  rw [ofClock?]
  by_cases hsixty : t.second = 60
  · have hs : t.hour * 3600 + t.minute * 60 + 59 = t.seconds := by
      simp only [hour, minute, second] at *; omega
    have hn : 1000000000 + t.fraction = t.nanos := by simp only [second, fraction] at *; omega
    rw [if_pos hsixty, hs, hn, of?_self h]
  · have hs : t.hour * 3600 + t.minute * 60 + t.second = t.seconds := by
      simp only [hour, minute, second] at *; omega
    have hn : t.fraction = t.nanos := by simp only [second, fraction] at *; omega
    rw [if_neg hsixty, hs, hn, of?_self h]

/-- A time has the clock reading of the time that a clock shows for it. -/
theorem reading_onClock (t : TimeOfDay) :
    t.onClock.hour = t.hour ∧ t.onClock.minute = t.minute ∧ t.onClock.second = t.second ∧
      t.onClock.fraction = t.fraction := by
  by_cases h : t.IsOnClock
  · rw [onClock_of_isOnClock h]
    exact ⟨rfl, rfl, rfl, rfl⟩
  · have hnanos := t.exists_time.2
    rw [onClock, dif_neg h]
    simp only [IsOnClock] at h
    simp only [hour, minute, second, fraction]
    omega

/-- The time of a clock reading is the one that the clock shows. -/
theorem ofClock?_eq (t : TimeOfDay) : ofClock? t.hour t.minute t.second t.fraction = some t.onClock := by
  obtain ⟨hhour, hminute, hsecond, hfraction⟩ := t.reading_onClock
  rw [← hhour, ← hminute, ← hsecond, ← hfraction]
  exact ofClock?_self t.isOnClock_onClock

end TimeOfDay

/-- The timestamp with the time that a clock shows. -/
def DateTime.onClock (t : DateTime) : DateTime := ⟨t.date, t.time.onClock⟩

/-- Only a timestamp whose time a clock shows is shown as itself. -/
theorem DateTime.onClock_eq_self_iff {t : DateTime} : t.onClock = t ↔ t.time.IsOnClock := by
  rw [← TimeOfDay.onClock_eq_self_iff]
  rcases t with ⟨date, time⟩
  rw [onClock, DateTime.mk.injEq]
  exact and_iff_right rfl

/-! ## Dates and times -/

theorem daysInMonth_le (year : Int) (month : Nat) : daysInMonth year month ≤ 31 := by
  unfold daysInMonth
  split <;> try omega
  split <;> omega

/-- The fields of a written date are read back, whatever follows. -/
theorem scanDate_write (d : Date) (rest : List Char) :
    scanDate (d.write ++ rest) = .ok (⟨d.year, d.month, d.day⟩, rest) := by
  obtain ⟨⟨hmin, hmax⟩, ⟨hmonth, htwelve⟩, hday, hlast⟩ := d.exists_day
  have hdays := daysInMonth_le d.year d.month
  have hwritten : d.write ++ rest = writeYear d.year
      ++ '-' :: (digitsPadded 2 d.month ++ '-' :: (digitsPadded 2 d.day ++ rest)) := by
    simp [Date.write]
  rw [hwritten, scanDate,
    scan_bind_of_ok (scanYear_writeYear hmin hmax (noDigitFirst_cons (by decide) _)),
    scan_bind_of_ok (scanChar_self '-' _),
    scan_bind_of_ok (scanField_digitsPadded hmonth htwelve (by omega) _),
    scan_bind_of_ok (scanChar_self '-' _),
    scan_bind_of_ok (scanField_digitsPadded hday (by omega) (by omega) _)]
  rfl

/-- The fields of a written time are read back, if neither a digit nor a dot stands behind it. -/
theorem scanTime_write (t : TimeOfDay) {rest : List Char} (hrest : NoDigitFirst rest)
    (hdot : rest.head? ≠ some '.') :
    scanTime (t.write ++ rest) = .ok (⟨t.hour, t.minute, t.second, t.fraction⟩, rest) := by
  obtain ⟨hseconds, hnanos⟩ := t.exists_time
  have hhour : t.hour ≤ 23 := by
    rw [TimeOfDay.hour]
    omega
  have hminute : t.minute ≤ 59 := by
    rw [TimeOfDay.minute]
    omega
  -- A leap second shows as one second more, so that there may be sixty of them.
  have hsecond : t.second ≤ 60 := by
    rw [TimeOfDay.second]
    omega
  have hfraction : t.fraction < 1000000000 := by
    rw [TimeOfDay.fraction]
    omega
  have hwritten : t.write ++ rest = digitsPadded 2 t.hour ++ ':' :: (digitsPadded 2 t.minute
      ++ ':' :: (digitsPadded 2 t.second ++ (writeFraction t.fraction ++ rest))) := by
    simp [TimeOfDay.write]
  rw [hwritten, scanTime,
    scan_bind_of_ok (scanField_digitsPadded (Nat.zero_le _) hhour (by omega) _),
    scan_bind_of_ok (scanChar_self ':' _),
    scan_bind_of_ok (scanField_digitsPadded (Nat.zero_le _) hminute (by omega) _),
    scan_bind_of_ok (scanChar_self ':' _),
    scan_bind_of_ok (scanField_digitsPadded (Nat.zero_le _) hsecond (by omega) _),
    scan_bind_of_ok (scanFraction_writeFraction hfraction hrest hdot)]
  rfl

/-- The fields of a written timestamp are read back, if neither a digit nor a dot stands behind it. -/
theorem scanDateTime_write (t : DateTime) {rest : List Char} (hrest : NoDigitFirst rest)
    (hdot : rest.head? ≠ some '.') :
    scanDateTime (t.write ' ' ++ rest)
      = .ok ((⟨t.date.year, t.date.month, t.date.day⟩,
          ⟨t.time.hour, t.time.minute, t.time.second, t.time.fraction⟩), rest) := by
  have hwritten : t.write ' ' ++ rest = t.date.write ++ ' ' :: (t.time.write ++ rest) := by
    simp [DateTime.write]
  -- The blank between date and time is skipped, and the time starts with a digit.
  have hskip : skipWhile isBlank (' ' :: (t.time.write ++ rest)) = .ok ((), t.time.write ++ rest) := by
    have htime : t.time.write ++ rest = digitsPadded 2 t.time.hour ++ (':' :: (digitsPadded 2 t.time.minute
        ++ ':' :: (digitsPadded 2 t.time.second ++ (writeFraction t.time.fraction ++ rest)))) := by
      simp [TimeOfDay.write]
    rw [htime, ← skipWhile_isBlank_digitsPadded]
    rfl
  rw [hwritten, scanDateTime, scan_bind_of_ok (scanDate_write t.date _), scan_bind_of_ok hskip,
    scan_bind_of_ok (scanTime_write t.time hrest hdot)]
  rfl

/-! ## Whole texts -/

/-- A reader that leaves nothing has read the whole text. -/
theorem readAll_of_ok {α : Type} {reader : Scan α} {cs : List Char} {a : α} (h : reader cs = .ok (a, [])) :
    readAll reader cs = .ok a := by
  rw [readAll, h]

/-- The fields of a date make that date. -/
theorem date_of_fields (d : Date) : (⟨d.year, d.month, d.day⟩ : DateFields).date = .ok d := by
  rw [DateFields.date, Date.of?_self]

/-- The fields of a time make the time that a clock shows. -/
theorem time_of_fields (t : TimeOfDay) :
    (⟨t.hour, t.minute, t.second, t.fraction⟩ : TimeFields).time = .ok t.onClock := by
  rw [TimeFields.time, TimeOfDay.ofClock?_eq]

/-- A written date is read as that date. -/
theorem Date.read_write (d : Date) : Date.read d.write = .ok d := by
  have hscan := scanDate_write d []
  rw [List.append_nil] at hscan
  rw [Date.read, readAll_of_ok hscan]
  exact date_of_fields d

/-- A written time of day is read as the time that a clock shows. -/
theorem TimeOfDay.read_write (t : TimeOfDay) : TimeOfDay.read t.write = .ok t.onClock := by
  have hscan := scanTime_write t noDigitFirst_nil (by simp)
  rw [List.append_nil] at hscan
  rw [TimeOfDay.read, readAll_of_ok hscan]
  exact time_of_fields t

/-- The fields of a timestamp make the timestamp that a clock shows. -/
theorem dateTimeOf_fields (t : DateTime) :
    dateTimeOf ⟨t.date.year, t.date.month, t.date.day⟩
      ⟨t.time.hour, t.time.minute, t.time.second, t.time.fraction⟩ = .ok t.onClock := by
  rw [dateTimeOf, date_of_fields, time_of_fields]
  rfl

/-- A written timestamp is read as the timestamp that a clock shows. -/
theorem DateTime.read_write (t : DateTime) : DateTime.read (t.write ' ') = .ok t.onClock := by
  have hscan := scanDateTime_write t noDigitFirst_nil (by simp)
  rw [List.append_nil] at hscan
  rw [DateTime.read, readAll_of_ok hscan]
  exact dateTimeOf_fields t

/-- At the offset of universal time a timestamp stays as it is. -/
theorem atOffset_zero (t : DateTime) : t.atOffset 0 = .ok t := by
  have hseconds := t.time.exists_time.1
  have hday : ((t.time.seconds : Int) - 0) / 86400 = 0 := by omega
  have htime : t.time.minusSeconds 0 = t.time := by
    have hclock : (((t.time.seconds : Int) - 0) % 86400).toNat = t.time.seconds := by omega
    simp only [TimeOfDay.minusSeconds, hclock]
  have hsame : t.minusSeconds? 0 = some t := by
    simp only [DateTime.minusSeconds?, hday, Int.add_zero, Date.ofDayNumber_dayNumber, Option.map_some, htime]
  rw [DateTime.atOffset, if_pos (by decide), hsame]

/-- A timestamp that is written with the offset of universal time is read as the timestamp that a clock shows. -/
theorem DateTime.readWithOffset_write (t : DateTime) :
    DateTime.readWithOffset (t.write ' ' ++ "+00".toList) = .ok t.onClock := by
  -- The sign of the offset ends the fraction before it.
  have hscan := scanDateTime_write t (noDigitFirst_cons (show '+'.isDigit = false by decide) ['0', '0'])
    (by decide)
  have hoffset : scanOffset ['+', '0', '0'] = .ok (0, []) := by rfl
  have hboth : scanDateTimeOffset (t.write ' ' ++ "+00".toList)
      = .ok (((⟨t.date.year, t.date.month, t.date.day⟩,
          ⟨t.time.hour, t.time.minute, t.time.second, t.time.fraction⟩), 0), []) := by
    show scanDateTimeOffset (t.write ' ' ++ ['+', '0', '0']) = _
    rw [scanDateTimeOffset, scan_bind_of_ok hscan, scan_bind_of_ok hoffset]
    rfl
  rw [DateTime.readWithOffset, readAll_of_ok hboth]
  show (dateTimeOf _ _ >>= fun t => t.atOffset 0) = .ok t.onClock
  rw [dateTimeOf_fields]
  exact atOffset_zero t.onClock

end InProcessSql.Calendar
