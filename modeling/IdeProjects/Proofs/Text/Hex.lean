import IdeProjects.Text.Hex
import Mathlib.Algebra.Group.Nat.Defs
import Mathlib.Data.List.Basic

/-!
# `IdeProjects.Proofs.Text.Hex`: digits and their values

Digits are written to a fixed width, with small letters in escapes and with
capital ones in identifiers, and one table reads both. So what is read is
stated for either alphabet: a digit has the value it was chosen for
(`value?_getD`), and a row of digits stands for the number it was written for,
as far as the number fits (`number?_digits`).
-/

set_option autoImplicit false

namespace IdeProjects.Text.Hex

/-- Digits come from their alphabet, which has to have the zero that missing
ones are filled with. -/
theorem mem_digits {alphabet : List Char} (hzero : '0' ∈ alphabet) {c : Char} (width n : Nat)
    (h : c ∈ digits alphabet width n) : c ∈ alphabet := by
  induction width generalizing n with
  | zero => simp [digits] at h
  | succ width ih =>
      rw [digits, List.mem_append, List.mem_singleton] at h
      rcases h with hhigher | rfl
      · exact ih (n / 16) hhigher
      · rw [List.getD_eq_getElem?_getD]
        cases hdigit : alphabet[n % 16]? with
        | none => exact hzero
        | some d => exact List.mem_of_getElem? hdigit

/-! ### Values -/

/-- Each digit has its value, whatever the case of the letters. -/
theorem value?_getD {alphabet : List Char} (h : alphabet = smallDigits ∨ alphabet = capitalDigits)
    {n : Nat} (hn : n < 16) : value? (alphabet.getD n '0') = some n := by
  have hsmall : ∀ n < 16, value? (smallDigits.getD n '0') = some n := by decide
  have hcapital : ∀ n < 16, value? (capitalDigits.getD n '0') = some n := by decide
  rcases h with rfl | rfl
  · exact hsmall n hn
  · exact hcapital n hn

/-- The number that a row of digits stands for, most significant first. -/
def number? (cs : List Char) : Option Nat :=
  cs.foldlM (fun n c => (value? c).map (16 * n + ·)) 0

/-- One more digit makes the number sixteen times as great. -/
theorem number?_concat {cs : List Char} {c : Char} {n v : Nat} (hcs : number? cs = some n)
    (hc : value? c = some v) : number? (cs ++ [c]) = some (16 * n + v) := by
  rw [number?] at hcs
  rw [number?, List.foldlM_append, hcs]
  simp [hc]

/-- Digits behind others move their number by their width. -/
theorem number?_append_digits {alphabet : List Char}
    (h : alphabet = smallDigits ∨ alphabet = capitalDigits) {cs : List Char} {m : Nat}
    (hcs : number? cs = some m) (width n : Nat) :
    number? (cs ++ digits alphabet width n) = some (16 ^ width * m + n % 16 ^ width) := by
  induction width generalizing n with
  | zero => simp [digits, hcs, Nat.mod_one]
  | succ width ih =>
      have hlast := value?_getD h (Nat.mod_lt n (by decide : 0 < 16))
      rw [digits, ← List.append_assoc, number?_concat (ih (n / 16)) hlast]
      -- The last digit is `n % 16`, and those before it are digits of `n / 16`.
      have hmod : n % (16 * 16 ^ width) = n % 16 + 16 * (n / 16 % 16 ^ width) := Nat.mod_mul
      have hpow : 16 ^ (width + 1) = 16 * 16 ^ width := Nat.pow_succ'
      rw [hpow, hmod, Nat.mul_assoc]
      congr 1
      omega

/-- A row of digits stands for the number it was written for. -/
theorem number?_digits {alphabet : List Char}
    (h : alphabet = smallDigits ∨ alphabet = capitalDigits) (width n : Nat) :
    number? (digits alphabet width n) = some (n % 16 ^ width) := by
  have hnone : number? [] = some 0 := rfl
  have hdigits := number?_append_digits h hnone width n
  rwa [List.nil_append, Nat.mul_zero, Nat.zero_add] at hdigits

end IdeProjects.Text.Hex
