/-!
# `IdeProjects.Text.Hex`: fixed-width hexadecimal

A number is written with a fixed count of hexadecimal digits, most
significant first. Escapes use small letters, identifiers capital ones;
both are the same digits under another alphabet.
-/

set_option autoImplicit false

namespace IdeProjects.Text.Hex

/-- The digits with small letters, in order of value. -/
def smallDigits : List Char := "0123456789abcdef".toList

/-- The digits with capital letters, in order of value. -/
def capitalDigits : List Char := "0123456789ABCDEF".toList

/-- `width` digits of `n`, most significant first. Higher digits than
fit are dropped. -/
def digits (alphabet : List Char) : (width n : Nat) → List Char
  | 0, _ => []
  | width + 1, n =>
    digits alphabet width (n / 16) ++ [alphabet.getD (n % 16) '0']

/-- As many digits are written as are asked for. -/
theorem length_digits (alphabet : List Char) (width n : Nat) :
    (digits alphabet width n).length = width := by
  induction width generalizing n with
  | zero => rfl
  | succ width ih => simp [digits, ih]

/-- The value of one hexadecimal digit of either case. -/
def value? (c : Char) : Option Nat :=
  if '0' ≤ c && c ≤ '9' then some (c.toNat - '0'.toNat)
  else if 'a' ≤ c && c ≤ 'f' then some (c.toNat - 'a'.toNat + 10)
  else if 'A' ≤ c && c ≤ 'F' then some (c.toNat - 'A'.toNat + 10)
  else none

end IdeProjects.Text.Hex
