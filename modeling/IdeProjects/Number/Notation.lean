import IdeProjects.Number.Shortest

/-!
# `IdeProjects.Number.Notation`: the text of a number

A binary64 number is written positionally when its first digit stands
between the ten-thousandths and the sixteenth place before the point,
and with an exponent of at least two digits otherwise. A positional
number always shows a fraction.
-/

set_option autoImplicit false

namespace IdeProjects

namespace Binary64

/-- Digits without the zeros at their end; a single zero stays. -/
def dropZeros (digits : List Char) : List Char :=
  match (digits.reverse.dropWhile (· == '0')).reverse with
  | [] => ['0']
  | kept => kept

/-- `0.digits * 10 ^ point`, positionally. -/
def positional (digits : List Char) (point : Int) : List Char :=
  if point ≤ 0 then
    '0' :: '.' :: (List.replicate (-point).toNat '0' ++ digits)
  else
    let whole := digits.take point.toNat
    let fraction := digits.drop point.toNat
    let padding := List.replicate (point.toNat - digits.length) '0'
    whole ++ padding ++ '.' :: (if fraction.isEmpty then ['0'] else fraction)

/-- `0.digits * 10 ^ point`, with one digit before the point and an
exponent. -/
def scientific (digits : List Char) (point : Int) : List Char :=
  let fraction := digits.drop 1
  let exponent := point - 1
  let size := (toString exponent.natAbs).toList
  digits.take 1 ++ (if fraction.isEmpty then [] else '.' :: fraction) ++
    'e' :: (if exponent < 0 then '-' else '+') ::
    (if size.length < 2 then '0' :: size else size)

/-- The text of a positive number. -/
def magnitudeText (mantissa : Nat) (exponent : Int) : List Char :=
  let (n, power) := shortest mantissa exponent
  let all := (toString n).toList
  let point : Int := all.length + power
  let digits := dropZeros all
  if -4 < point && point ≤ 16 then positional digits point
  else scientific digits point

/-- How a document spells the numbers that are not finite. -/
structure Specials where
  nan : String
  infinity : String

/-- The text of a number. -/
def text (specials : Specials) : Binary64 → String
  | .nan => specials.nan
  | .infinite negative =>
    if negative then "-" ++ specials.infinity else specials.infinity
  | .finite negative mantissa exponent =>
    let size := if mantissa = 0 then "0.0"
      else String.ofList (magnitudeText mantissa exponent)
    if negative then "-" ++ size else size

end Binary64

end IdeProjects
