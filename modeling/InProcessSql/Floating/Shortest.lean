import InProcessSql.Floating.Basic
import InProcessSql.Number.Decimal

/-!
# The shortest decimal of a floating-point number

The reals that round to a given floating-point number fill an interval around it. The shortest decimal
of the number is the decimal in that interval that has the fewest digits; of several it is the nearest
to the number, and of two equally near ones the greater.

For each count of digits the only candidates are the two neighbours of the number on the grid of
decimals with that many digits, because a grid that meets the interval at all meets it there. The
interval is given as numerators over one denominator, so that all comparisons are exact.
-/

namespace InProcessSql.Floating

open InProcessSql.Number

/-- The decimal `coefficient * 10 ^ exponent`. -/
structure Decimal where
  coefficient : Nat
  /-- The power of ten that counts them. -/
  exponent : Int
  deriving DecidableEq, Repr

/-- A positive number, with the interval of reals that round to it, as numerators over `den`. -/
structure Interval where
  mid : Nat
  low : Nat
  high : Nat
  den : Nat
  /-- Whether the ends round to the number, too. -/
  closed : Bool
  deriving DecidableEq, Repr

namespace Interval

/-- The interval of the number `significand * 2 ^ exponent` of the format. Below a power of two the
numbers lie twice as densely as above it. The ends belong to the interval of an even significand. -/
def ofFinite (f : Format) (significand : Nat) (exponent : Int) : Interval :=
  let power := significand == f.fractionSize
  -- In quarters of the distance to the next number, all ends are integers.
  let n := 4 * significand
  let scaled (k : Nat) : Nat := (Format.scaleBy k 1 (2 - exponent)).1
  { mid := scaled n
    low := scaled (if power then n - 1 else n - 2)
    high := scaled (n + 2)
    den := (Format.scaleBy n 1 (2 - exponent)).2
    closed := significand % 2 == 0 }

/-- The interval with everything divided by `10 ^ e`. -/
def scale (i : Interval) (e : Int) : Interval :=
  if 0 ≤ e then { i with den := i.den * Nat.pow 10 e.toNat }
  else
    let p := Nat.pow 10 (-e).toNat
    { i with mid := i.mid * p, low := i.low * p, high := i.high * p }

def contains (i : Interval) (n : Nat) : Bool :=
  let v := n * i.den
  if i.closed then i.low ≤ v && v ≤ i.high else i.low < v && v < i.high

/-- The neighbour of the number among the naturals that lies in the interval; of two the nearer, and of
two equally near ones the greater. -/
def pick? (i : Interval) : Option Nat :=
  let floor := i.mid / i.den
  let rest := i.mid % i.den
  match i.contains floor, i.contains (floor + 1) with
  | true, true => some (if 2 * rest < i.den then floor else floor + 1)
  | true, false => some floor
  | false, true => some (floor + 1)
  | false, false => none

/-- The greatest `k` with `10 ^ k` at most the number. -/
def floorLog10 (i : Interval) : Int :=
  if i.den ≤ i.mid then (digits (i.mid / i.den)).length - 1
  else
    let ceiling := (i.den + i.mid - 1) / i.mid
    Int.negOfNat (digits (ceiling - 1)).length

/-- The first decimal of the interval on the grids `10 ^ exponent`, `10 ^ (exponent - 1)`, …, of which
at most `count` are tried. -/
def search (i : Interval) (exponent : Int) : Nat → Option Decimal
  | 0 => none
  | count + 1 =>
    match (i.scale exponent).pick? with
    | some n => some ⟨n, exponent⟩
    | none => search i (exponent - 1) count

end Interval

/-- A decimal without zeros at its end. -/
def Decimal.trim (d : Decimal) : Nat → Decimal
  | 0 => d
  | fuel + 1 =>
    if d.coefficient % 10 == 0 && d.coefficient != 0 then
      Decimal.trim ⟨d.coefficient / 10, d.exponent + 1⟩ fuel
    else d

/-- The shortest decimal of the positive number `significand * 2 ^ exponent` of the format. Seventeen
digits tell all numbers of both formats apart. -/
def shortest (f : Format) (significand : Nat) (exponent : Int) : Decimal :=
  let i := Interval.ofFinite f significand exponent
  let d := (i.search i.floorLog10 17).getD ⟨0, 0⟩
  d.trim 17

end InProcessSql.Floating
