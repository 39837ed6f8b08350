/-!
# `IdeProjects.Number.Binary64`: binary floating-point numbers

A number of a document that has a fraction or an exponent is kept as
the nearest binary64 number, in exact terms: a sign, a whole mantissa
and a power of two. Nothing here is machine arithmetic, so every step
can be computed and reasoned about on natural numbers.

`ofDecimal` finds the nearest number to a decimal; a tie goes to the
even mantissa.
-/

set_option autoImplicit false

namespace IdeProjects

/-- A binary64 number. A finite one is `mantissa * 2 ^ exponent` under
its sign, where `mantissa < 2 ^ 53`, `-1074 ≤ exponent`, and the
mantissa has its top bit unless the exponent is least. -/
inductive Binary64 where
  | nan
  | infinite (negative : Bool)
  | finite (negative : Bool) (mantissa : Nat) (exponent : Int)
  deriving DecidableEq, Repr

namespace Binary64

/-- The least exponent. -/
def minExponent : Int := -1074

/-- The greatest exponent of a finite number. -/
def maxExponent : Int := 971

/-- The quotient rounded to the nearest whole number, a tie to the even
one. -/
def roundDiv (numerator denominator : Nat) : Nat :=
  let whole := numerator / denominator
  let twice := 2 * (numerator % denominator)
  if twice < denominator then whole
  else if twice = denominator then whole + whole % 2
  else whole + 1

/-- `numerator / denominator` divided by `2 ^ exponent`, as a fraction. -/
def scale (numerator denominator : Nat) (exponent : Int) : Nat × Nat :=
  if exponent ≥ 0 then (numerator, denominator * Nat.pow 2 exponent.toNat)
  else (numerator * Nat.pow 2 (-exponent).toNat, denominator)

/-- The exponent under which a positive fraction has a 53-bit mantissa,
or the least exponent if that is greater. -/
def exponentOf (numerator denominator : Nat) : Int :=
  let guess : Int := numerator.log2 - denominator.log2 - 52
  let (n, d) := scale numerator denominator guess
  max minExponent (if n / d < Nat.pow 2 52 then guess - 1 else guess)

/-- The binary64 number nearest to a positive fraction. -/
def ofFraction (negative : Bool) (numerator denominator : Nat) : Binary64 :=
  let exponent := exponentOf numerator denominator
  let (n, d) := scale numerator denominator exponent
  let mantissa := roundDiv n d
  let (mantissa, exponent) :=
    if mantissa = Nat.pow 2 53 then (Nat.pow 2 52, exponent + 1) else (mantissa, exponent)
  if exponent > maxExponent then .infinite negative
  else .finite negative mantissa exponent

/-- The binary64 number nearest to `digits * 10 ^ exponent`. Decimals
far outside the range are decided by their size, so that no power of
ten grows with the exponent that is written. -/
def ofDecimal (negative : Bool) (digits : Nat) (exponent : Int) : Binary64 :=
  let size : Int := exponent + (toString digits).length
  if digits = 0 || size < -330 then .finite negative 0 minExponent
  else if size > 320 then .infinite negative
  else if exponent ≥ 0 then ofFraction negative (digits * Nat.pow 10 exponent.toNat) 1
  else ofFraction negative digits (Nat.pow 10 (-exponent).toNat)

/-- Whether the number is a zero of either sign. -/
def isZero : Binary64 → Bool
  | .finite _ 0 _ => true
  | _ => false

/-- The whole number of the same value, if there is one. -/
def toInt? : Binary64 → Option Int
  | .finite negative mantissa exponent =>
    let (n, d) := scale mantissa 1 (-exponent)
    if n % d = 0 then
      some (if negative then -((n / d : Nat) : Int) else ((n / d : Nat) : Int))
    else none
  | _ => none

end Binary64

end IdeProjects
