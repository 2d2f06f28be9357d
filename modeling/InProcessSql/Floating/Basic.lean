/-!
# Binary floating-point numbers

A floating-point value is kept as its word: a sign bit, a field of exponent bits and a field of fraction
bits, whose widths are a `Format`. `Format.decode` reads a word as a `Number`, which is not a number, an
infinity, or a sign with a significand and a power of two; `Format.ofRatio` finds the word of the number
nearest to a quotient of naturals. `Binary32` and `Binary64` are the words of the two usual formats.
-/

namespace InProcessSql.Floating

/-- The widths of the fields of a floating-point word. -/
structure Format where
  exponentBits : Nat
  fractionBits : Nat
  deriving DecidableEq, Repr

def single : Format := ⟨8, 23⟩

def double : Format := ⟨11, 52⟩

/-- What a floating-point word stands for. -/
inductive Number where
  | nan
  | infinity (negative : Bool)
  /-- The number `significand * 2 ^ exponent`, or its negation. -/
  | finite (negative : Bool) (significand : Nat) (exponent : Int)
  deriving DecidableEq, Repr

namespace Format

/-- The number of fraction words, which is the weight of the lowest exponent bit. -/
def fractionSize (f : Format) : Nat := Nat.pow 2 f.fractionBits

/-- The greatest value of the exponent field, which marks infinities and what is no number. -/
def topExponent (f : Format) : Nat := Nat.pow 2 f.exponentBits - 1

/-- The exponent of the smallest numbers. -/
def minExponent (f : Format) : Int := 2 - (Nat.pow 2 (f.exponentBits - 1) : Int) - f.fractionBits

/-- The word of positive infinity. -/
def infinityWord (f : Format) : Nat := f.topExponent * f.fractionSize

def signBit (f : Format) : Nat := Nat.pow 2 (f.exponentBits + f.fractionBits)

/-- The word of the usual quiet value that is no number. -/
def nanWord (f : Format) : Nat := f.infinityWord + f.fractionSize / 2

/-- What a word stands for. -/
def decode (f : Format) (word : Nat) : Number :=
  let negative := word / f.signBit % 2 == 1
  let exponent := word / f.fractionSize % (f.topExponent + 1)
  let fraction := word % f.fractionSize
  if exponent == f.topExponent then
    if fraction == 0 then .infinity negative else .nan
  else if exponent == 0 then
    .finite negative fraction f.minExponent
  else
    .finite negative (f.fractionSize + fraction) (f.minExponent + exponent - 1)

/-- The word `magnitude` with the sign. -/
def withSign (f : Format) (negative : Bool) (magnitude : Nat) : Nat :=
  if negative then f.signBit + magnitude else magnitude

/-! ## Rounding -/

/-- The natural number nearest to `num / den`; of two equally near ones the even one. -/
def roundEven (num den : Nat) : Nat :=
  let floor := num / den
  let twice := 2 * (num % den)
  if den < twice || (twice == den && floor % 2 == 1) then floor + 1 else floor

/-- The quotient `num / den` divided by `2 ^ e`, as numerator and denominator. -/
def scaleBy (num den : Nat) (e : Int) : Nat × Nat :=
  if 0 ≤ e then (num, den * Nat.pow 2 e.toNat) else (num * Nat.pow 2 (-e).toNat, den)

/-- The greatest `k` with `2 ^ k ≤ num / den`, for positive `num` and `den`. -/
def floorLog2 (num den : Nat) : Int :=
  let guess : Int := (num.log2 : Int) - den.log2
  let (n, d) := scaleBy num den guess
  if n < d then guess - 1 else guess

/-- The word of the nonnegative number nearest to `num / den`; of two equally near ones the one with an
even significand. What lies beyond the finite numbers becomes infinity. -/
def ofRatio (f : Format) (num den : Nat) : Nat :=
  if num == 0 then 0 else
    let exponent := max f.minExponent (floorLog2 num den - f.fractionBits)
    let (n, d) := scaleBy num den exponent
    -- A significand that carries into the next power of two carries into the exponent field, too.
    let word := roundEven n d + (exponent - f.minExponent).toNat * f.fractionSize
    min word f.infinityWord

/-- The word nearest to a number of another format. -/
def ofNumber (f : Format) : Number → Nat
  | .nan => f.nanWord
  | .infinity negative => f.withSign negative f.infinityWord
  | .finite negative significand exponent =>
    let (n, d) := scaleBy significand 1 (-exponent)
    f.withSign negative (f.ofRatio n d)

/-- The word nearest to an integer. -/
def ofInt (f : Format) (n : Int) : Nat := f.withSign (n < 0) (f.ofRatio n.natAbs 1)

end Format

/-! ## The two formats -/

/-- A floating-point word of 32 bits. -/
structure Binary32 where
  word : UInt32
  deriving DecidableEq, Repr, Inhabited

/-- A floating-point word of 64 bits. -/
structure Binary64 where
  word : UInt64
  deriving DecidableEq, Repr, Inhabited

namespace Binary32

/-- What the word stands for. -/
def number (x : Binary32) : Number := single.decode x.word.toNat

/-- The number nearest to an integer. -/
def ofInt (n : Int) : Binary32 := ⟨UInt32.ofNat (single.ofInt n)⟩

/-- The same number in 64 bits. A value that is no number keeps its sign and its fraction and becomes
quiet. -/
def widen (x : Binary32) : Binary64 :=
  match x.number with
  | .nan =>
    let w := x.word.toNat
    let fraction := (w % single.fractionSize) * Nat.pow 2 (double.fractionBits - single.fractionBits)
    let quiet := double.fractionSize / 2
    let word := double.infinityWord + (if fraction < quiet then fraction + quiet else fraction)
    ⟨UInt64.ofNat (double.withSign (w / single.signBit % 2 == 1) word)⟩
  | n => ⟨UInt64.ofNat (double.ofNumber n)⟩

end Binary32

namespace Binary64

/-- What the word stands for. -/
def number (x : Binary64) : Number := double.decode x.word.toNat

/-- The number nearest to an integer. -/
def ofInt (n : Int) : Binary64 := ⟨UInt64.ofNat (double.ofInt n)⟩

end Binary64

end InProcessSql.Floating
