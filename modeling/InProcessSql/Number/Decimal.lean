/-!
# Decimal integers

`digits` writes a natural number and `ofInt` an integer, without leading zeros and with a minus sign
only. `readInteger` reads an integer of a given range: an optional sign and one or more digits, taken
from left to right, so that of a character that is no digit and a value that leaves the range the one
that comes first is reported. `readInteger_ofInt` says that written integers are read back.
-/

namespace InProcessSql.Number

/-! ## Writing -/

def digits (n : Nat) : List Char := Nat.toDigits 10 n

/-- The decimal digits of `n`, with zeros in front up to the given width. -/
def digitsPadded (width n : Nat) : List Char :=
  List.replicate (width - (digits n).length) '0' ++ digits n

/-- An integer in decimal. -/
def ofInt (n : Int) : List Char :=
  if n < 0 then '-' :: digits n.natAbs else digits n.natAbs

/-- The value of one decimal digit. -/
def digitValue (c : Char) : Nat := c.toNat - '0'.toNat

/-- The value of a run of decimal digits. -/
def ofDigits (cs : List Char) : Nat := Nat.ofDigitChars 10 cs 0

/-! ## Reading -/

/-- Why a text is no integer of the expected range. -/
inductive IntegerError where
  | empty
  | invalidDigit
  | tooLarge
  | tooSmall
  deriving DecidableEq, Repr, Inhabited

def IntegerError.message : IntegerError → String
  | .empty => "cannot parse integer from empty string"
  | .invalidDigit => "invalid digit found in string"
  | .tooLarge => "number too large to fit in target type"
  | .tooSmall => "number too small to fit in target type"

/-- A range of integers. -/
structure Range where
  lo : Int
  hi : Int
  deriving DecidableEq, Repr

/-- The integers of a signed word of the given width. -/
def Range.signed (bits : Nat) : Range := ⟨-(Nat.pow 2 (bits - 1) : Int), (Nat.pow 2 (bits - 1) : Int) - 1⟩

/-- Reads digits onto the integer `acc`, with the digits counted negative if `negative` is set, as long
as the result stays in the range. -/
def readDigits (range : Range) (negative : Bool) (acc : Int) : List Char → Except IntegerError Int
  | [] => .ok acc
  | c :: cs =>
    if c.isDigit then
      let next := if negative then acc * 10 - digitValue c else acc * 10 + digitValue c
      if range.hi < next then .error .tooLarge
      else if next < range.lo then .error .tooSmall
      else readDigits range negative next cs
    else .error .invalidDigit

/-- Reads an integer of the range. -/
def readInteger (range : Range) : List Char → Except IntegerError Int
  | [] => .error .empty
  | ['+'] => .error .invalidDigit
  | ['-'] => .error .invalidDigit
  | '+' :: cs => readDigits range false 0 cs
  | '-' :: cs => readDigits range true 0 cs
  | cs => readDigits range false 0 cs

/-! ## Written digits are digits, and are read back -/

theorem isDigit_of_mem_digits {n : Nat} {c : Char} (h : c ∈ digits n) : c.isDigit = true :=
  Nat.isDigit_of_mem_toDigits (by decide) (by decide) h

theorem digits_ne_nil (n : Nat) : digits n ≠ [] := Nat.toDigits_ne_nil

@[simp] theorem ofDigits_digits (n : Nat) : ofDigits (digits n) = n := Nat.ofDigitChars_ten_toDigits

/-- A number has at least one digit. -/
theorem digits_eq_cons (n : Nat) : ∃ c cs, digits n = c :: cs ∧ c.isDigit = true := by
  cases h : digits n with
  | nil => exact absurd h (digits_ne_nil n)
  | cons c cs => exact ⟨c, cs, rfl, isDigit_of_mem_digits (n := n) (by simp [h])⟩

/-- Further digits make a number no smaller. -/
private theorem ofDigitChars_ge (cs : List Char) (acc : Nat) : acc ≤ Nat.ofDigitChars 10 cs acc := by
  induction cs generalizing acc with
  | nil => simp
  | cons c cs ih =>
    rw [Nat.ofDigitChars_cons]
    exact Nat.le_trans (by omega) (ih _)

/-- Digits are read as their number, if that is in range. -/
private theorem readDigits_positive (range : Range) (cs : List Char) (acc : Nat)
    (hd : ∀ c ∈ cs, c.isDigit = true) (hlo : range.lo ≤ 0)
    (hhi : (Nat.ofDigitChars 10 cs acc : Int) ≤ range.hi) :
    readDigits range false acc cs = .ok (Nat.ofDigitChars 10 cs acc : Int) := by
  induction cs generalizing acc with
  | nil => simp [readDigits]
  | cons c cs ih =>
    have hc : c.isDigit = true := hd c (by simp)
    rw [Nat.ofDigitChars_cons] at hhi ⊢
    have hge := ofDigitChars_ge cs (10 * acc + (c.toNat - '0'.toNat))
    have hnext : (acc : Int) * 10 + (digitValue c : Int)
        = ((10 * acc + (c.toNat - '0'.toNat) : Nat) : Int) := by
      simp only [digitValue]; omega
    simp only [readDigits, hc, if_true, Bool.false_eq_true, if_false]
    rw [hnext, if_neg (by omega), if_neg (by omega)]
    exact ih _ (fun x hx => hd x (by simp [hx])) hhi

/-- Digits behind a minus are read as their number below zero, if that is in range. -/
private theorem readDigits_negative (range : Range) (cs : List Char) (acc : Nat)
    (hd : ∀ c ∈ cs, c.isDigit = true) (hhi : 0 ≤ range.hi)
    (hlo : range.lo ≤ -(Nat.ofDigitChars 10 cs acc : Int)) :
    readDigits range true (-(acc : Int)) cs = .ok (-(Nat.ofDigitChars 10 cs acc : Int)) := by
  induction cs generalizing acc with
  | nil => simp [readDigits]
  | cons c cs ih =>
    have hc : c.isDigit = true := hd c (by simp)
    rw [Nat.ofDigitChars_cons] at hlo ⊢
    have hge := ofDigitChars_ge cs (10 * acc + (c.toNat - '0'.toNat))
    have hnext : -(acc : Int) * 10 - (digitValue c : Int)
        = -((10 * acc + (c.toNat - '0'.toNat) : Nat) : Int) := by
      simp only [digitValue]; omega
    simp only [readDigits, hc, if_true]
    rw [hnext, if_neg (by omega), if_neg (by omega)]
    exact ih _ (fun x hx => hd x (by simp [hx])) hlo

/-- A written integer of the range is read back. -/
theorem readInteger_ofInt {range : Range} {n : Int} (hlo : range.lo ≤ n) (hhi : n ≤ range.hi)
    (h0 : range.lo ≤ 0) (h1 : 0 ≤ range.hi) : readInteger range (ofInt n) = .ok n := by
  have hd : ∀ c ∈ digits n.natAbs, c.isDigit = true := fun c hc => isDigit_of_mem_digits hc
  have hv : Nat.ofDigitChars 10 (digits n.natAbs) 0 = n.natAbs := ofDigits_digits _
  obtain ⟨c, cs, hcons, hc⟩ := digits_eq_cons n.natAbs
  simp only [ofInt]
  split
  · have := readDigits_negative range (digits n.natAbs) 0 hd h1 (by rw [hv]; omega)
    rw [hv] at this
    have hval : -((n.natAbs : Nat) : Int) = n := by omega
    rw [hval] at this
    rw [hcons] at this ⊢
    simpa [readInteger] using this
  · have := readDigits_positive range (digits n.natAbs) 0 hd h0 (by rw [hv]; omega)
    rw [hv] at this
    have hval : ((n.natAbs : Nat) : Int) = n := by omega
    rw [hval] at this
    rw [hcons] at this ⊢
    have hplus : c ≠ '+' := by rintro rfl; simp at hc
    have hminus : c ≠ '-' := by rintro rfl; simp at hc
    -- A number without a sign starts with a digit, so that it is read as it stands.
    have hread : readInteger range (c :: cs) = readDigits range false 0 (c :: cs) := by
      unfold readInteger
      split <;> simp_all
    rw [hread]
    exact this

end InProcessSql.Number
