import IdeProjects.Number.Binary64

/-!
# `IdeProjects.Number.Shortest`: the fewest digits that read back

A binary64 number is written with the fewest decimal digits that are
read as the same number, and of those with the digits nearest to it.
The decimals that are read as a number are those between the midpoints
to its two neighbours; the midpoints belong to it when its mantissa is
even. `shortest` tries the grids of one digit, two digits and so on,
and on each the two points next to the number.
-/

set_option autoImplicit false

namespace IdeProjects

namespace Binary64

/-- The decimals that are read as one number, over a common
denominator. -/
structure Neighbourhood where
  low : Nat
  middle : Nat
  high : Nat
  denominator : Nat
  closed : Bool

/-- The neighbourhood of a positive number. Below a power of two the
neighbour is half as far, unless the exponent is least. -/
def neighbourhood (mantissa : Nat) (exponent : Int) : Neighbourhood :=
  let below := if mantissa = Nat.pow 2 52 && exponent > minExponent then 1 else 2
  let factor := if exponent ≥ 2 then Nat.pow 2 (exponent - 2).toNat else 1
  let denominator := if exponent ≥ 2 then 1 else Nat.pow 2 (2 - exponent).toNat
  ⟨(4 * mantissa - below) * factor, 4 * mantissa * factor,
    (4 * mantissa + 2) * factor, denominator, mantissa % 2 = 0⟩

/-- Whether `n * 10 ^ power` lies in the neighbourhood. -/
def Neighbourhood.holds (h : Neighbourhood) (n : Nat) (power : Int) : Bool :=
  let point := n * h.denominator * Nat.pow 10 power.toNat
  let scale := Nat.pow 10 (-power).toNat
  if h.closed then h.low * scale ≤ point && point ≤ h.high * scale
  else h.low * scale < point && point < h.high * scale

/-- The power of ten of the first digit. -/
def Neighbourhood.magnitude (h : Neighbourhood) : Int :=
  (toString (h.middle * Nat.pow 10 330 / h.denominator)).length - 331

/-- The point of a grid that is read back and lies nearest; on a tie
the even one. -/
def Neighbourhood.onGrid? (h : Neighbourhood) (power : Int) : Option Nat :=
  let numerator := h.middle * Nat.pow 10 (-power).toNat
  let denominator := h.denominator * Nat.pow 10 power.toNat
  let lower := numerator / denominator
  match h.holds lower power, h.holds (lower + 1) power with
  | false, false => none
  | true, false => some lower
  | false, true => some (lower + 1)
  | true, true => some (roundDiv numerator denominator)

/-- The digits and the power of ten of their last place, from grids of
`count` digits on; at most `fuel` grids are tried. -/
def Neighbourhood.search (h : Neighbourhood) (magnitude : Int) :
    (fuel count : Nat) → Nat × Int
  | 0, count => (h.middle / h.denominator, magnitude + 1 - count)
  | fuel + 1, count =>
    let power := magnitude + 1 - count
    match h.onGrid? power with
    | some n => (n, power)
    | none => h.search magnitude fuel (count + 1)

/-- The shortest decimal of a positive number. Seventeen digits are
enough for every binary64 number. -/
def shortest (mantissa : Nat) (exponent : Int) : Nat × Int :=
  let h := neighbourhood mantissa exponent
  h.search h.magnitude 17 1

end Binary64

end IdeProjects
