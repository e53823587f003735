/-!
# Hexadecimal digits

Numbers in escapes have a fixed number of lower-case digits; digits of either case are read.

Results:
1. `value?_digit`: the digit written for a number below sixteen is read back.
2. `length_fixed`: a number written with a width has that many digits.
3. `ofDigits?_fixed`: it is read back when it fits.
-/

namespace TapeMachine.Hex

/-- The lower-case digit of a number below sixteen; larger numbers count modulo sixteen. -/
def digit (n : Nat) : Char :=
  ['0', '1', '2', '3', '4', '5', '6', '7', '8', '9', 'a', 'b', 'c', 'd', 'e', 'f'].getD (n % 16) '0'

/-- The value of a digit of either case. -/
def value? (c : Char) : Option Nat :=
  if '0' ≤ c ∧ c ≤ '9' then some (c.toNat - '0'.toNat)
  else if 'a' ≤ c ∧ c ≤ 'f' then some (c.toNat - 'a'.toNat + 10)
  else if 'A' ≤ c ∧ c ≤ 'F' then some (c.toNat - 'A'.toNat + 10)
  else none

/-- The last `width` digits of a number, the leading ones first. -/
def fixed : (width : Nat) → Nat → List Char
  | 0, _ => []
  | width + 1, n => fixed width (n / 16) ++ [digit n]

/-- The number that a run of digits spells, leading digit first; `none` at any other character. -/
def ofDigits? (s : List Char) : Option Nat :=
  s.foldlM (fun n c => (value? c).map (16 * n + ·)) 0

@[simp] theorem length_fixed (width n : Nat) : (fixed width n).length = width := by
  induction width generalizing n with
  | zero => rfl
  | succ width ih => simp [fixed, ih]

@[simp] theorem digit_mod (n : Nat) : digit (n % 16) = digit n := by
  simp [digit]

theorem value?_digit (n : Nat) : value? (digit n) = some (n % 16) := by
  have below : ∀ k < 16, value? (digit k) = some k := by decide
  rw [← digit_mod, below _ (Nat.mod_lt _ (by decide))]

theorem ofDigits?_fixed {width n : Nat} (fits : n < Nat.pow 16 width) :
    ofDigits? (fixed width n) = some n := by
  induction width generalizing n with
  | zero =>
    have : n = 0 := Nat.lt_one_iff.mp fits
    subst this
    rfl
  | succ width ih =>
    have smaller : n / 16 < Nat.pow 16 width :=
      (Nat.div_lt_iff_lt_mul (by decide)).mpr fits
    have front : List.foldlM (fun n c => (value? c).map (16 * n + ·)) 0 (fixed width (n / 16)) =
        some (n / 16) := ih smaller
    rw [fixed, ofDigits?, List.foldlM_append, front]
    simp [value?_digit]
    omega

example : fixed 4 0xE9 = ['0', '0', 'e', '9'] ∧ ofDigits? ['D', '8', '0', '0'] = some 0xD800 := by
  decide

end TapeMachine.Hex
