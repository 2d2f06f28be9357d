import InProcessSql.Floating.Basic
import InProcessSql.Number.Decimal

/-!
# Read floating-point numbers

A floating-point literal is an optional sign before `inf`, `infinity` or `nan` in any letter case, or
before digits, which may have a point among them or at either end and a decimal exponent behind them.
Its value is the number nearest to the decimal that it writes.
-/

namespace InProcessSql.Floating

open InProcessSql.Number

/-- Why a text is no floating-point literal. -/
inductive FloatError where
  | empty
  | invalid
  deriving DecidableEq, Repr, Inhabited

def FloatError.message : FloatError → String
  | .empty => "cannot parse float from empty string"
  | .invalid => "invalid float literal"

/-- A literal: the sign and what follows it. -/
inductive Literal where
  | nan
  | infinity (negative : Bool)
  /-- The decimal `digits * 10 ^ exponent`, or its negation. -/
  | decimal (negative : Bool) (digits : Nat) (exponent : Int)
  deriving DecidableEq, Repr

/-- Exponents grow no further once they have reached this bound: whatever they count is then either
nothing or beyond all numbers. -/
def exponentBound : Nat := 0x10000

/-- The value of exponent digits, which stops growing at `exponentBound`. -/
def exponentOfDigits (cs : List Char) : Nat :=
  cs.foldl (fun acc c => if acc < exponentBound then 10 * acc + digitValue c else acc) 0

/-- Reads the exponent after the digits of a literal. Nothing counts as zero. -/
def readExponent? : List Char → Option Int
  | [] => some 0
  | e :: cs =>
    if e == 'e' || e == 'E' then
      let (negative, ds) : Bool × List Char :=
        match cs with
        | '+' :: ds => (false, ds)
        | '-' :: ds => (true, ds)
        | ds => (false, ds)
      if ds.isEmpty || ds.any (fun c => !c.isDigit) then none
      else some (if negative then -(exponentOfDigits ds : Int) else exponentOfDigits ds)
    else none

/-- Reads what follows the sign of a literal. -/
def readUnsigned? (negative : Bool) (cs : List Char) : Option Literal :=
  let folded := cs.map Char.toLower
  if folded == "nan".toList then some .nan
  else if folded == "inf".toList || folded == "infinity".toList then some (.infinity negative)
  else
    let whole := cs.takeWhile Char.isDigit
    let (places, rest) :=
      match cs.dropWhile Char.isDigit with
      | '.' :: cs => (cs.takeWhile Char.isDigit, cs.dropWhile Char.isDigit)
      | cs => ([], cs)
    if whole.isEmpty && places.isEmpty then none
    else (readExponent? rest).map fun e =>
      .decimal negative (ofDigits (whole ++ places)) (e - places.length)

/-- Reads a floating-point literal. -/
def readLiteral : List Char → Except FloatError Literal
  | [] => .error .empty
  | c :: cs =>
    let literal? :=
      if c == '-' then readUnsigned? true cs
      else if c == '+' then readUnsigned? false cs
      else readUnsigned? false (c :: cs)
    match literal? with
    | some l => .ok l
    | none => .error .invalid

/-- The word of the number nearest to `digits * 10 ^ exponent`. Decimals far beyond the numbers of the
format are not computed. -/
def Format.ofDecimal (f : Format) (ds : Nat) (exponent : Int) : Nat :=
  let magnitude := (digits ds).length + exponent
  if ds == 0 || magnitude < -400 then 0
  else if 400 < magnitude then f.infinityWord
  else if 0 ≤ exponent then f.ofRatio (ds * Nat.pow 10 exponent.toNat) 1
  else f.ofRatio ds (Nat.pow 10 (-exponent).toNat)

/-- The word of a literal. -/
def Format.ofLiteral (f : Format) : Literal → Nat
  | .nan => f.nanWord
  | .infinity negative => f.withSign negative f.infinityWord
  | .decimal negative ds exponent => f.withSign negative (f.ofDecimal ds exponent)

def Binary32.read (cs : List Char) : Except FloatError Binary32 :=
  (readLiteral cs).map fun l => ⟨UInt32.ofNat (single.ofLiteral l)⟩

def Binary64.read (cs : List Char) : Except FloatError Binary64 :=
  (readLiteral cs).map fun l => ⟨UInt64.ofNat (double.ofLiteral l)⟩

end InProcessSql.Floating
