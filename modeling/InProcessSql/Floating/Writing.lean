import InProcessSql.Floating.Shortest

/-!
# Written floating-point numbers

Numbers are written with the digits of their shortest decimal, in one of two ways. `plain` never uses
an exponent and writes integers without a point. `marked` always shows that the number is no integer: it
writes a point, or an exponent for numbers that are very small or very large.
-/

namespace InProcessSql.Floating

open InProcessSql.Number

/-- The decimal in positional notation. An integer is written without a point. -/
def Decimal.positional (d : Decimal) : List Char :=
  let ds := digits d.coefficient
  if 0 ≤ d.exponent then ds ++ List.replicate d.exponent.toNat '0'
  else
    let places := (-d.exponent).toNat
    if places < ds.length then
      ds.take (ds.length - places) ++ '.' :: ds.drop (ds.length - places)
    else
      '0' :: '.' :: List.replicate (places - ds.length) '0' ++ ds

/-- The power of ten of the first digit of a decimal. -/
def Decimal.magnitude (d : Decimal) : Int := (digits d.coefficient).length - 1 + d.exponent

/-- The decimal with one digit before the point and an exponent. -/
def Decimal.scientific (d : Decimal) : List Char :=
  let exponent := 'e' :: ofInt d.magnitude
  match digits d.coefficient with
  | [] => exponent
  | [c] => c :: exponent
  | c :: cs => c :: '.' :: cs ++ exponent

/-- The powers of ten of the first digit for which `marked` uses no exponent. -/
def Decimal.isPlain (d : Decimal) : Bool := -4 ≤ d.magnitude && d.magnitude < 16

/-- The decimal of a number of the format that is not negative. -/
def decimalOf (f : Format) (significand : Nat) (exponent : Int) : Decimal :=
  if significand == 0 then ⟨0, 0⟩ else shortest f significand exponent

/-- The text with a minus sign in front if `negative` is set. -/
def signed (negative : Bool) (cs : List Char) : List Char := if negative then '-' :: cs else cs

/-- The number without exponent, integers without a point. -/
def plain (f : Format) : Number → List Char
  | .nan => "NaN".toList
  | .infinity negative => signed negative "inf".toList
  | .finite negative significand exponent =>
    signed negative (decimalOf f significand exponent).positional

/-- The number with a point or an exponent. -/
def marked (f : Format) : Number → List Char
  | .nan => "NaN".toList
  | .infinity negative => signed negative "inf".toList
  | .finite negative significand exponent =>
    let d := decimalOf f significand exponent
    let cs :=
      if significand == 0 || d.isPlain then
        if 0 ≤ d.exponent then d.positional ++ ['.', '0'] else d.positional
      else d.scientific
    signed negative cs

end InProcessSql.Floating
