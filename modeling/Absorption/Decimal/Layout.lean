import Absorption.Decimal.Shortest

set_option autoImplicit false

/-!
The written forms of binary64 numbers. Which digits are written is decided elsewhere
(`Decimal.shortest`, `Fraction.significant`); here they get a point and an exponent. A decimal that
is read back gives the binary64 number nearest to it.
-/

namespace Absorption.Decimal

/-- When digits are written with a point alone and when with an exponent. -/
structure Layout where
  /-- The least decimal exponent that is written without an `e`. -/
  least : Int
  /-- The first decimal exponent, from one on, that is written with an `e` again. -/
  limit : Int
  /-- Whether a whole number written without an `e` ends in `.0`. -/
  keepsPoint : Bool

/-- Numbers that must be read back unchanged: positional from 0.0001 to below 10^16. -/
def exact : Layout := ⟨-4, 16, true⟩

/-- Numbers in messages, of six digits: positional as long as no zeros are needed to fill up. -/
def general : Layout := ⟨-4, 6, false⟩

/-- A decimal exponent: a sign and at least two digits. -/
def exponentText (e : Int) : List Char :=
  let ds := Text.digits e.natAbs
  'e' :: (if e < 0 then '-' else '+') :: (List.replicate (2 - ds.length) '0' ++ ds)

/-- One digit, a point and the other digits if there are any, and the exponent. -/
def scientific (ds : List Char) (e : Int) : List Char :=
  match ds with
  | [] => []
  | d :: [] => d :: exponentText e
  | d :: rest => d :: '.' :: rest ++ exponentText e

/-- A non-negative decimal in a layout. -/
def Layout.render (l : Layout) (d : Decimal) : List Char :=
  let ds := Text.digits d.significand
  let e : Int := d.scale + ds.length - 1
  if l.least ≤ e ∧ e < l.limit then
    if 0 ≤ d.scale then
      ds ++ List.replicate d.scale.toNat '0' ++ (if l.keepsPoint then ['.', '0'] else [])
    else if 0 ≤ e then
      ds.take (e.toNat + 1) ++ '.' :: ds.drop (e.toNat + 1)
    else
      '0' :: '.' :: List.replicate ((-e).toNat - 1) '0' ++ ds
  else scientific ds e

/-- A minus sign for negative numbers, minus zero among them. -/
def signText (negative : Bool) : List Char := if negative then ['-'] else []

/-- A number in words if it is not finite, else by `write`, behind its sign. -/
def withSign (x : Float) (write : (mantissa : Nat) → (exponent : Int) → List Char) : String :=
  match Binary.ofFloat x with
  | .nan => "nan"
  | .infinite negative => String.ofList (signText negative ++ "inf".toList)
  | .finite negative m q => String.ofList (signText negative ++ write m q)

/-- The digits of the shortest decimal that is read back as the number, zero included. -/
def shortestOrZero (mantissa : Nat) (exponent : Int) : Decimal :=
  if mantissa = 0 then ⟨0, 0⟩ else shortest mantissa exponent

/-- The number rounded to `count` significant digits, zero included. -/
def roundedOrZero (count mantissa : Nat) (exponent : Int) : Decimal :=
  if mantissa = 0 then ⟨0, 0⟩ else (Fraction.scaled mantissa 2 exponent).significant count

/-- The text from which exactly this number is read back. -/
def exactText (x : Float) : String :=
  withSign x fun m q => exact.render (shortestOrZero m q)

/-- The number with up to six significant digits. -/
def generalText (x : Float) : String :=
  withSign x fun m q => general.render (roundedOrZero 6 m q).trim

/-- The number with `places` digits after the point. -/
def fixedText (places : Nat) (x : Float) : String :=
  withSign x fun m q =>
    let ds := Text.digits ((Fraction.scaled m 2 q).roundAt (-places))
    let ds := List.replicate (places + 1 - ds.length) '0' ++ ds
    ds.take (ds.length - places) ++ '.' :: ds.drop (ds.length - places)

/-- The number with one digit before the point, `places` after it and an exponent. -/
def scientificText (places : Nat) (x : Float) : String :=
  withSign x fun m q =>
    if m = 0 then scientific (List.replicate (places + 1) '0') 0
    else
      let d := roundedOrZero (places + 1) m q
      scientific (Text.digits d.significand) (d.scale + places)

/-- The text behind as many blanks as it takes to fill `width`. -/
def padded (width : Nat) (text : String) : String :=
  String.ofList (List.replicate (width - text.length) ' ' ++ text.toList)

/-- The nearest binary64 number. Beyond 10^310 it is infinite and below 10^-400 zero, whatever the
digits are. -/
def toFloat (negative : Bool) (d : Decimal) : Float :=
  let order : Int := d.scale + (Text.digits d.significand).length
  let magnitude : Float :=
    if d.significand = 0 then 0.0
    else if 310 < order then 1.0 / 0.0
    else if order < -400 then 0.0
    else Float.ofScientific d.significand (d.scale < 0) d.scale.natAbs
  if negative then -magnitude else magnitude

/-- The nearest binary64 number, if the integer is in their range. -/
def ofInt? (n : Int) : Option Float :=
  let x := toFloat (n < 0) ⟨n.natAbs, 0⟩
  if x.isInf then none else some x

/-- The number rounded to `count` significant digits and read back; zero loses its sign. -/
def rounded (count : Nat) (x : Float) : Float :=
  match Binary.ofFloat x with
  | .finite negative m q => if m = 0 then 0.0 else toFloat negative (roundedOrZero count m q)
  | _ => x

end Absorption.Decimal
